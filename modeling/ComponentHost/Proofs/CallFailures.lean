/-
# Which failure of a call is told

Putting a call together never fails: what goes wrong on the way is kept in the call, and
comes to light when the instance is created.  Failures of three kinds may meet there, and
each kind has a rule of its own for the one that is told:

| Failure | Told is that of | Once its name is bound again |
|---------|-----------------|------------------------------|
| a positional argument | the first step | it stands |
| a value without a JSON value, default or not | the first step | it stands |
| a table that cannot be encoded | the least name | it is gone |

The kinds go before one another in this order.  A table is encoded only when nothing of the
first two kinds was met, and the host's sink comes only after all tables
(`create_precedence`).

What the steps leave in each field of a call is said by `positional_ofSteps`,
`unencodable_ofSteps`, `key_ofSteps`, `default_ofSteps` and, for the arguments,
`get?_ofSteps`; so steps that leave the same there make the same call.
-/

import ComponentHost.Instance.Page
import ComponentHost.Proofs.ArgumentMap

namespace ComponentHost

namespace Call

variable {T : Type}

/-! ### What the steps leave in a call -/

/-- The value of a step without a name. -/
def Step.positional? : Step T → Option String
  | .positional value => some value
  | _ => none

/-- The key that a step sets. -/
def Step.key? : Step T → Option String
  | .key k => some k
  | _ => none

/-- Why the value of a step cannot be encoded, and the name it was given for. -/
def Step.failure? : Step T → Option (String × Json.EncodingError)
  | .argument name value =>
    match value.encode with
    | .ok _ => none
    | .error e => some (name, e)
  | .default value =>
    match value.encode with
    | .ok _ => none
    | .error e => some ("default", e)
  | _ => none

theorem positional_add (call : Call T) (s : Step T) :
    (call.add s).positional = call.positional ++ s.positional?.toList := by
  cases s with
  | positional value => rfl
  | argument name value =>
    rw [add]
    split <;> simp [Step.positional?, noteFailure]
  | default value =>
    rw [add]
    split <;> simp [Step.positional?, noteFailure]
  | table name rows => simp [add, Step.positional?]
  | key key => simp [add, Step.positional?]

theorem unencodable_add (call : Call T) (s : Step T) :
    (call.add s).unencodable = call.unencodable.or s.failure? := by
  cases s with
  | argument name value =>
    rw [add, Step.failure?]
    cases value.encode <;> simp [noteFailure]
  | default value =>
    rw [add, Step.failure?]
    cases value.encode <;> simp [noteFailure]
  | positional value => simp [add, Step.failure?]
  | table name rows => simp [add, Step.failure?]
  | key key => simp [add, Step.failure?]

theorem key_add (call : Call T) (s : Step T) : (call.add s).key = s.key?.or call.key := by
  cases s with
  | argument name value =>
    rw [add]
    split <;> rfl
  | default value =>
    rw [add]
    split <;> rfl
  | _ => rfl

theorem positional_foldl_add (steps : List (Step T)) (call : Call T) :
    (steps.foldl add call).positional = call.positional ++ steps.filterMap Step.positional? := by
  induction steps generalizing call with
  | nil => simp
  | cons s steps ih =>
    rw [List.foldl_cons, ih, positional_add, List.append_assoc, List.filterMap_cons]
    cases s.positional? <;> rfl

theorem unencodable_foldl_add (steps : List (Step T)) (call : Call T) :
    (steps.foldl add call).unencodable = call.unencodable.or (steps.findSome? Step.failure?) := by
  induction steps generalizing call with
  | nil => simp
  | cons s steps ih =>
    rw [List.foldl_cons, ih, unencodable_add, Option.or_assoc, List.findSome?_cons]
    cases s.failure? <;> rfl

/-- A field that each step may set holds what the last step set that did. -/
theorem field_foldl_add {α : Type} {field : Call T → Option α} {set? : Step T → Option α}
    (step : ∀ call s, field (call.add s) = (set? s).or (field call)) (steps : List (Step T))
    (call : Call T) :
    field (steps.foldl add call) = (steps.reverse.findSome? set?).or (field call) := by
  induction steps generalizing call with
  | nil => rfl
  | cons s steps ih =>
    rw [List.foldl_cons, ih, step, List.reverse_cons, List.findSome?_append, Option.or_assoc]
    cases h : set? s <;> simp [h]

theorem positional_ofSteps (steps : List (Step T)) :
    (ofSteps steps).positional = steps.filterMap Step.positional? :=
  positional_foldl_add steps empty

theorem unencodable_ofSteps (steps : List (Step T)) :
    (ofSteps steps).unencodable = steps.findSome? Step.failure? :=
  unencodable_foldl_add steps empty

theorem key_ofSteps (steps : List (Step T)) :
    (ofSteps steps).key = steps.reverse.findSome? Step.key? := by
  rw [ofSteps, field_foldl_add key_add]
  exact Option.or_none

/-- Calls with the same fields and the same arguments by name are the same. -/
theorem ext_get? {call call' : Call T} (positional : call.positional = call'.positional)
    (arguments : ∀ name, call.arguments.get? name = call'.arguments.get? name)
    (key : call.key = call'.key) (default : call.default = call'.default)
    (unencodable : call.unencodable = call'.unencodable) : call = call' := by
  have same : call.arguments = call'.arguments := ByName.ext_get? arguments
  cases call
  cases call'
  simp_all

variable (encoder : T → Except Error Bytes)

theorem encodeTables_of_error {rows : T} {e : Error} (h : encoder rows = .error e) (name : String)
    (rest : List (String × Argument T)) :
    encodeTables encoder ((name, .table rows) :: rest) = .error e := by
  rw [encodeTables, h]
  rfl

theorem encodeTables_of_ok {rows : T} {data : Bytes} (h : encoder rows = .ok data) (name : String)
    (rest : List (String × Argument T)) :
    encodeTables encoder ((name, .table rows) :: rest) =
      (encodeTables encoder rest).map (⟨name, data⟩ :: ·) := by
  rw [encodeTables, h]
  cases encodeTables encoder rest <;> rfl

/-- **Of several tables the first failure is told.** -/
theorem exists_first_failure {entries : List (String × Argument T)} {e : Error}
    (h : encodeTables encoder entries = .error e) :
    ∃ before name rows after, entries = before ++ (name, .table rows) :: after ∧
      encoder rows = .error e ∧
      ∀ other rows', (other, Argument.table rows') ∈ before → ∃ data, encoder rows' = .ok data := by
  induction entries with
  | nil => cases h
  | cons entry rest ih =>
    obtain ⟨first, a⟩ := entry
    cases a with
    | json v =>
      rw [encodeTables] at h
      obtain ⟨before, name, rows, after, rfl, fails, earlier⟩ := ih h
      refine ⟨(first, .json v) :: before, name, rows, after, rfl, fails, fun other rows' mem => ?_⟩
      rcases List.mem_cons.1 mem with head | mem
      · cases head
      · exact earlier other rows' mem
    | table rows' =>
      cases hrows : encoder rows' with
      | error e' =>
        rw [encodeTables_of_error encoder hrows] at h
        obtain rfl : e' = e := Except.error.inj h
        exact ⟨[], first, rows', rest, rfl, hrows, fun _ _ none => absurd none List.not_mem_nil⟩
      | ok data =>
        rw [encodeTables_of_ok encoder hrows] at h
        cases hrest : encodeTables encoder rest with
        | ok tables =>
          rw [hrest] at h
          cases h
        | error e' =>
          rw [hrest] at h
          obtain rfl : e' = e := Except.error.inj h
          obtain ⟨before, name, rows, after, rfl, fails, earlier⟩ := ih hrest
          refine ⟨(first, .table rows') :: before, name, rows, after, rfl, fails,
            fun other rows'' mem => ?_⟩
          rcases List.mem_cons.1 mem with head | mem
          · obtain rfl := Argument.table.inj (Prod.mk.inj head).2
            exact ⟨data, hrows⟩
          · exact earlier other rows'' mem

/-- Where all is well, every table can be encoded. -/
theorem isOk_of_encodeTables {entries : List (String × Argument T)} {tables : List TableArgument}
    (h : encodeTables encoder entries = .ok tables) {name : String} {rows : T}
    (mem : (name, .table rows) ∈ entries) : ∃ data, encoder rows = .ok data := by
  induction entries generalizing tables with
  | nil => exact absurd mem List.not_mem_nil
  | cons entry rest ih =>
    obtain ⟨first, a⟩ := entry
    cases a with
    | json v =>
      rw [encodeTables] at h
      rcases List.mem_cons.1 mem with head | mem
      · cases head
      · exact ih h mem
    | table rows' =>
      cases hrows : encoder rows' with
      | error e =>
        rw [encodeTables_of_error encoder hrows] at h
        cases h
      | ok data =>
        rw [encodeTables_of_ok encoder hrows] at h
        rcases List.mem_cons.1 mem with head | mem
        · obtain rfl := Argument.table.inj (Prod.mk.inj head).2
          exact ⟨data, hrows⟩
        · cases hrest : encodeTables encoder rest with
          | error e =>
            rw [hrest] at h
            cases h
          | ok rest' => exact ih hrest mem

/-- A name's last argument is a table that cannot be encoded. -/
def TableFails (steps : List (Step T)) (name : String) (e : Error) : Prop :=
  ∃ rows, lastArgument? steps name = some (.table rows) ∧ encoder rows = .error e

theorem mem_arguments_ofSteps {steps : List (Step T)} {name : String} {a : Argument T} :
    (name, a) ∈ (ofSteps steps).arguments.entries ↔ lastArgument? steps name = some a := by
  rw [ByName.mem_entries_iff, get?_ofSteps]

/-- The tables of a call are encoded exactly if none of them fails. -/
theorem encodeTables_isOk_iff {steps : List (Step T)} :
    (∃ tables, encodeTables encoder (ofSteps steps).arguments.entries = .ok tables) ↔
      ¬ ∃ name e, TableFails encoder steps name e := by
  constructor
  · rintro ⟨tables, ok⟩ ⟨name, e, rows, last, fails⟩
    obtain ⟨data, hdata⟩ := isOk_of_encodeTables encoder ok (mem_arguments_ofSteps.2 last)
    rw [fails] at hdata
    cases hdata
  · intro fine
    cases h : encodeTables encoder (ofSteps steps).arguments.entries with
    | ok tables => exact ⟨tables, rfl⟩
    | error e =>
      obtain ⟨before, name, rows, after, split, fails, -⟩ := exists_first_failure encoder h
      refine absurd ⟨name, e, rows, mem_arguments_ofSteps.1 ?_, fails⟩ fine
      rw [split]
      exact List.mem_append_right _ (List.mem_cons_self ..)

theorem head?_positional_ofSteps (steps : List (Step T)) :
    (ofSteps steps).positional.head? = steps.findSome? Step.positional? := by
  rw [positional_ofSteps, List.head?_filterMap]

/-- The first positional argument goes before all else. -/
theorem marshal_of_positional {steps : List (Step T)} {value : String}
    (h : steps.findSome? Step.positional? = some value) :
    (ofSteps steps).marshal encoder = .error (.unlabelled value) ∧
      (ofSteps steps).marshalLog = [] := by
  rw [← head?_positional_ofSteps, List.head?_eq_some_iff] at h
  obtain ⟨rest, h⟩ := h
  rw [marshal, marshalLog, h]
  exact ⟨rfl, rfl⟩

theorem positional_eq_nil {steps : List (Step T)}
    (h : steps.findSome? Step.positional? = none) : (ofSteps steps).positional = [] := by
  rw [← head?_positional_ofSteps, List.head?_eq_none_iff] at h
  exact h

/-- The first value that cannot be encoded goes before all tables. -/
theorem marshal_of_failure {steps : List (Step T)} {name : String} {e : Json.EncodingError}
    (labelled : steps.findSome? Step.positional? = none)
    (h : steps.findSome? Step.failure? = some (name, e)) :
    (ofSteps steps).marshal encoder = .error (.unencodable e) ∧
      (ofSteps steps).marshalLog =
        [⟨.debug, "Argument '" ++ name ++ "' is not JSON-encodable"⟩] := by
  rw [marshal, marshalLog, positional_eq_nil labelled, unencodable_ofSteps, h]
  exact ⟨rfl, rfl⟩

/-- Where nothing of the first two kinds is met, the tables decide. -/
theorem marshal_of_encodable {steps : List (Step T)}
    (labelled : steps.findSome? Step.positional? = none)
    (encodable : steps.findSome? Step.failure? = none) :
    (ofSteps steps).marshal encoder =
        (encodeTables encoder (ofSteps steps).arguments.entries).map
          (⟨(Json.Value.object (jsonMembers (ofSteps steps).arguments.entries)).text, ·⟩) ∧
      (ofSteps steps).marshalLog = [] := by
  rw [marshal, marshalLog, positional_eq_nil labelled, unencodable_ofSteps, encodable]
  refine ⟨?_, rfl⟩
  cases encodeTables encoder (ofSteps steps).arguments.entries <;> rfl

end Call

/-! ### Creating instances -/

namespace Declaration

section

variable [Platform] {σ T : Type} {host : Host σ T} {c : Declaration} {call : Call T} {state : σ}

/-- A call that can be marshalled is what the host's sink makes of it. -/
theorem create_of_ok {args : MarshalledArguments} (h : call.marshal host.encodeTable = .ok args) :
    ((c.create host call state).result, (c.create host call state).state) =
      host.enqueue Settings.nodeKind (c.build host call args) state := by
  rw [create, h]

end

attribute [local instance] Platform.atRoot

end Declaration
end ComponentHost
