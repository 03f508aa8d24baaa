/-
# State kept across a run

A host keeps the values that were reported for identities.  The identity of a call
with a key is that of its component and key (`Declaration.keyedQuery`); no argument
enters, so the state of an instance outlives any change of them.

| What happens | Values of the host |
|--------------|--------------------|
| a report or a removal | those of its identity change |
| a call, whatever its sink does | none |
| anything else, registrations included | none |

`values_act` is this table for one step, and `values_after` for a run: under an
identity stands what the reports of the run say about it, the last one first.
-/

import ComponentHost.Proofs.Respelling
import ComponentHost.Session

namespace ComponentHost

/-! ### Calls with a key -/

namespace Declaration

variable [Platform]

/-- The query of a call with a key. -/
def keyedQuery (c : Declaration) (key : String) : Query :=
  ⟨Settings.elementKind,
    Identity.ofInput (Identity.input Settings.elementKind c (.key key)), some key, c.name⟩

/-- The arguments do not enter the query of a call with a key. -/
theorem query_some (c : Declaration) (key : String) (args : MarshalledArguments) :
    c.query (some key) args = c.keyedQuery key := rfl

/-- **Equal declarations are asked for alike**, however their directory is spelled. -/
theorem keyedQuery_eq_of_sameAs {c d : Declaration} (h : c.SameAs d) (key : String) :
    c.keyedQuery key = d.keyedQuery key := by
  rw [keyedQuery, keyedQuery, input_eq_of_sameAs h, h.1]

/-- A sink that keeps what it builds makes one query, and answers with the value of the
queried identity, else the default. -/
theorem create_keep {c : Declaration} {call : Call Table} {args : MarshalledArguments}
    (h : call.marshal Table.encode = .ok args) (page : Page) :
    (c.create (Page.host .keep) call page).result =
        .ok (.resolve (page.values.get? (c.query call.key args).identity) call.default) ∧
      (c.create (Page.host .keep) call page).state =
        ⟨page.values, page.nodes ++ [(Settings.nodeKind, c.node args)],
          page.queries ++ [c.query call.key args]⟩ := by
  have h : call.marshal (Page.host .keep).encodeTable = .ok args := h
  rw [create, h]
  exact ⟨rfl, rfl⟩

/-- Creating an instance leaves the reported values alone, whatever the sink does. -/
theorem values_create (c : Declaration) (call : Call Table) (disposition : Disposition)
    (page : Page) :
    (c.create (Page.host disposition) call page).state.values = page.values := by
  rw [create]
  split
  · rfl
  · cases disposition <;> rfl

end Declaration

namespace Session

/-! ### Reports -/

/-- The identity and the value that an action reports, or the identity whose value it
takes away. -/
def reportBy? (s : Session) : Action → Option (String × Option Json.Value)
  | .report identity value => (identity.or s.page.lastIdentity?).map (·, value)
  | _ => none

/-- What the last report for an identity says: a value, or none if it took it away or
if there is no such report. -/
def lastReported (reports : List (String × Option Json.Value)) (identity : String) :
    Option Json.Value :=
  (reports.reverse.lookup identity).join

section

variable [Platform]

/-- The reports of a run, in order. -/
def reports (s : Session) : List Action → List (String × Option Json.Value)
  | [] => []
  | a :: rest => (s.reportBy? a).toList ++ (s.act a).session.reports rest

/-- **One step changes a value by a report only.** -/
theorem values_act (s : Session) (a : Action) (identity : String) :
    (s.act a).session.page.values.get? identity =
      ((s.reportBy? a).toList.lookup identity).getD (s.page.values.get? identity) := by
  cases a with
  | call c steps disposition =>
    exact congrArg (·.get? identity) (Declaration.values_create ..)
  | report who value =>
    simp only [act, reportBy?]
    generalize who.or s.page.lastIdentity? = reported
    rcases reported with _ | i
    · rfl
    by_cases same : identity = i
    · subst same
      cases value <;> simp [Page.report, ByName.get?_insert, ByName.get?_erase]
    · have other : (identity == i) = false := beq_eq_false_iff_ne.2 same
      cases value <;>
        simp [Page.report, ByName.get?_insert, ByName.get?_erase, List.lookup_cons, same, other]
  | _ => rfl

/-- **What a run keeps.**  Under an identity stands what the last report for it says,
and what stood there before where there is none. -/
theorem values_after (s : Session) (run : List Action) (identity : String) :
    (s.after run).page.values.get? identity =
      ((s.reports run).reverse.lookup identity).getD (s.page.values.get? identity) := by
  induction run generalizing s with
  | nil => rfl
  | cons a rest ih =>
    have step : s.after (a :: rest) = (s.act a).session.after rest := rfl
    have single : (s.reportBy? a).toList.reverse = (s.reportBy? a).toList := by
      cases s.reportBy? a <;> rfl
    rw [step, ih, values_act, reports, List.reverse_append, single, List.lookup_append]
    cases ((s.act a).session.reports rest).reverse.lookup identity <;> rfl

theorem values_after_begin (files : FileTree) (run : List Action) (identity : String) :
    ((begin files).after run).page.values.get? identity =
      lastReported ((begin files).reports run) identity := by
  rw [values_after, lastReported]
  cases ((begin files).reports run).reverse.lookup identity <;> rfl

/-- A report stands until the next one for its identity. -/
theorem values_after_report {s : Session} {earlier later : List Action} {identity : String}
    {value : Option Json.Value}
    (silent : ∀ r ∈ (s.after (earlier ++ [.report (some identity) value])).reports later,
      r.1 ≠ identity) :
    (s.after (earlier ++ .report (some identity) value :: later)).page.values.get? identity =
      value := by
  have parts : s.after (earlier ++ .report (some identity) value :: later) =
      (s.after (earlier ++ [.report (some identity) value])).after later := by
    simp [after]
  have last : s.after (earlier ++ [.report (some identity) value]) =
      ((s.after earlier).act (.report (some identity) value)).session := by
    simp [after]
  have nothing : ((s.after (earlier ++ [.report (some identity) value])).reports
      later).reverse.lookup identity = none := by
    refine List.lookup_eq_none_iff.2 fun r hr => ?_
    have := silent r (List.mem_reverse.1 hr)
    simpa using fun e => this e.symm
  rw [parts, values_after, nothing, last, values_act]
  simp [reportBy?]

/-! ### Calls in a run -/

/-- A call with a key asks for the identity of its component and key. -/
theorem reply_act_keyed (s : Session) {c : Declaration} {steps : List (Call.Step Table)}
    {key : String} {args : MarshalledArguments} (hkey : (Call.ofSteps steps).key = some key)
    (hargs : (Call.ofSteps steps).marshal Table.encode = .ok args) :
    (s.act (.call c steps .keep)).reply =
      .called (.ok (.resolve (s.page.values.get? (c.keyedQuery key).identity)
        (Call.ofSteps steps).default)) [c.keyedQuery key] [(Settings.nodeKind, c.node args)] := by
  obtain ⟨result, state⟩ := c.create_keep hargs s.page
  rw [hkey, Declaration.query_some] at result state
  simp only [act, result, state, List.drop_left]

/-- **A keyed instance keeps its state.**  After any run, a call with a key that
marshals asks once, for the identity of its component and key, and returns what was
last reported for it and not taken away, else the call's default, else no value.  Equal
declarations are asked for alike, so a value that was reported for one of them is
returned by the other until the next report or removal for its identity, whatever the
arguments of either and whatever the value, `null` included. -/
theorem keyed_call_keeps_value (files : FileTree) (run : List Action) (c : Declaration)
    (steps : List (Call.Step Table)) (key : String) (args : MarshalledArguments)
    (hkey : (Call.ofSteps steps).key = some key)
    (hargs : (Call.ofSteps steps).marshal Table.encode = .ok args) :
    (((begin files).after run).act (.call c steps .keep)).reply =
        .called
          (.ok
            (match lastReported ((begin files).reports run) (c.keyedQuery key).identity,
              (Call.ofSteps steps).default with
            | some reported, _ => .value reported
            | none, some default => .value default
            | none, none => .noValue))
          [c.keyedQuery key] [(Settings.nodeKind, c.node args)] ∧
      ∀ d : Declaration, d.SameAs c →
        d.keyedQuery key = c.keyedQuery key ∧
        ∀ earlier later value,
          run = earlier ++ .report (some (d.keyedQuery key).identity) (some value) :: later →
          (∀ r ∈ ((begin files).after (earlier ++
              [.report (some (d.keyedQuery key).identity) (some value)])).reports later,
            r.1 ≠ (d.keyedQuery key).identity) →
          (((begin files).after run).act (.call c steps .keep)).reply =
            .called (.ok (.value value)) [c.keyedQuery key] [(Settings.nodeKind, c.node args)] := by
  rw [reply_act_keyed _ hkey hargs]
  constructor
  · rw [values_after_begin]
    cases lastReported ((begin files).reports run) (c.keyedQuery key).identity <;>
      cases (Call.ofSteps steps).default <;> rfl
  · intro d same
    have asked := Declaration.keyedQuery_eq_of_sameAs same key
    refine ⟨asked, ?_⟩
    rintro earlier later value rfl silent
    rw [asked] at silent
    rw [asked, values_after_report silent]
    rfl

end

attribute [local instance] Platform.atRoot

/-- A `null` is reported for a knob under the empty key; after the knob has been
registered anew and an instance without a key was made, it is still what the knob
returns, with other arguments and a default and its directory spelled differently. -/
theorem keyed_call_keeps_null :
    let c := Declaration.ofPath "knob" (.ofString "a/./b/")
    let d := Declaration.ofPath "knob" (.ofString "a//b")
    let steps : List (Call.Step Table) :=
      [.argument "max" (.integer 200), .key "", .default (.integer 1), .table "rows" (.rows [7])]
    let earlier : List Action :=
      [.register d, .call d [.key "", .argument "max" (.integer 100)] .keep]
    let later : List Action :=
      [.register (.ofUrl "knob" "u"), .call c [.argument "max" (.integer 1)] .withholdValue]
    let run := earlier ++ .report (some (d.keyedQuery "").identity) (some .null) :: later
    (Call.ofSteps steps).key = some "" ∧
      (Call.ofSteps steps).marshal Table.encode = .ok ⟨"\x7b\"max\":200\x7d", [⟨"rows", [7]⟩]⟩ ∧
        (((begin .empty).after run).act (.call c steps .keep)).reply =
          .called (.ok (.value .null)) [c.keyedQuery ""]
            [(Settings.nodeKind, c.node ⟨"\x7b\"max\":200\x7d", [⟨"rows", [7]⟩]⟩)] := by
  intro c d steps earlier later run
  have hkey : (Call.ofSteps steps).key = some "" := rfl
  have hargs : (Call.ofSteps steps).marshal Table.encode =
      .ok ⟨"\x7b\"max\":200\x7d", [⟨"rows", [7]⟩]⟩ := rfl
  refine ⟨hkey, hargs, ?_⟩
  have two := (keyed_call_keeps_value .empty run c steps "" _ hkey hargs).2 d (by decide)
  refine two.2 earlier later .null rfl fun r hr => ?_
  simp [later, reports, reportBy?] at hr

end Session
end ComponentHost
