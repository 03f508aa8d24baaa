/-
# Without a key an identity is as fine as the arguments

Steps bind names to arguments, and the last successful step for a name counts.  What a
node carries is split in two before it enters the identity: one JSON text of all values
and a list of tables.  Each part is a map made of the arguments binding by binding
(`Call.marshal_eq_ok`), and together they tell every argument (`Call.args_eq_iff`).

| Part | Tells its map by |
|------|------------------|
| JSON text | no two objects having the same text (`Json.Value.text_inj`) |
| tables | names in increasing order (`ByName.ext_get?`) |

So the inputs of two calls without a key are equal exactly if every name is bound to the
same value or table by both (`keyless_input_eq_iff`).
-/

import ComponentHost.Proofs.Bindings
import ComponentHost.Proofs.IdentityInput
import ComponentHost.Proofs.ValueText

namespace ComponentHost

/-- An argument as a node carries it: a JSON value or the octets of a table. -/
inductive EncodedArgument where
  | json (value : Json.Value)
  | table (data : Bytes)

namespace EncodedArgument

/-- The value of an encoded argument that is JSON. -/
def json? : EncodedArgument → Option Json.Value
  | .json v => some v
  | .table _ => none

/-- The octets of an encoded argument that is a table. -/
def data? : EncodedArgument → Option Bytes
  | .json _ => none
  | .table bytes => some bytes

end EncodedArgument

variable {T : Type} (encoder : T → Except Error Bytes)

namespace Argument

/-- The value of an argument that is JSON. -/
def json? : Argument T → Option Json.Value
  | .json v => some v
  | .table _ => none

/-- The octets of an argument that is a table. -/
def data? : Argument T → Option Bytes
  | .json _ => none
  | .table rows => (encoder rows).toOption

/-- An argument in its encoded form. -/
def encoded? : Argument T → Option EncodedArgument
  | .json v => some (.json v)
  | .table rows => (encoder rows).toOption.map .table

theorem json?_eq_encoded? (a : Argument T) :
    a.json? = (a.encoded? encoder).bind EncodedArgument.json? := by
  cases a with
  | json v => rfl
  | table rows =>
    cases h : encoder rows <;>
      simp [json?, encoded?, h, Except.toOption, EncodedArgument.json?]

theorem data?_eq_encoded? (a : Argument T) :
    a.data? encoder = (a.encoded? encoder).bind EncodedArgument.data? := by
  cases a with
  | json v => rfl
  | table rows =>
    cases h : encoder rows <;>
      simp [data?, encoded?, h, Except.toOption, EncodedArgument.data?]

theorem encoded?_eq_parts (a : Argument T) :
    a.encoded? encoder = (a.json?.map .json).or ((a.data? encoder).map .table) := by
  cases a with
  | json v => rfl
  | table rows => rfl

/-- **The JSON part and the table part tell the encoded argument**, and it tells them. -/
theorem bind_encoded?_eq_iff {a b : Option (Argument T)} :
    a.bind (encoded? encoder) = b.bind (encoded? encoder) ↔
      a.bind json? = b.bind json? ∧ a.bind (data? encoder) = b.bind (data? encoder) := by
  have parts : ∀ o : Option (Argument T), o.bind (encoded? encoder) =
      ((o.bind json?).map .json).or ((o.bind (data? encoder)).map .table) := by
    intro o
    cases o with
    | none => rfl
    | some a => exact encoded?_eq_parts encoder a
  have json : ∀ o : Option (Argument T),
      o.bind json? = (o.bind (encoded? encoder)).bind EncodedArgument.json? := by
    intro o
    cases o with
    | none => rfl
    | some a => exact json?_eq_encoded? encoder a
  have data : ∀ o : Option (Argument T),
      o.bind (data? encoder) = (o.bind (encoded? encoder)).bind EncodedArgument.data? := by
    intro o
    cases o with
    | none => rfl
    | some a => exact data?_eq_encoded? encoder a
  constructor
  · intro same
    rw [json, same, ← json, data, same, ← data]
    exact ⟨rfl, rfl⟩
  · rintro ⟨sameJson, sameData⟩
    rw [parts, sameJson, sameData, ← parts]

end Argument

namespace Call

/-- The argument to which a step binds a name, if it does and its value can be encoded. -/
def Step.argument? (name : String) : Step T → Option (Argument T)
  | .argument n value => if n = name then value.encode.toOption.map .json else none
  | .table n rows => if n = name then some (.table rows) else none
  | _ => none

/-- The argument to which the last successful step for a name binds it. -/
def lastArgument? (steps : List (Step T)) (name : String) : Option (Argument T) :=
  steps.reverse.findSome? (Step.argument? name)

/-- The argument map of steps: each name's last argument, encoded. -/
def argumentMap (steps : List (Step T)) (name : String) : Option EncodedArgument :=
  (lastArgument? steps name).bind (Argument.encoded? encoder)

/-- Whether a step is for a name. -/
def Step.IsFor (name : String) : Step T → Prop
  | .argument n _ => n = name
  | .table n _ => n = name
  | _ => False

instance (name : String) : DecidablePred (Step.IsFor (T := T) name)
  | .argument n _ => inferInstanceAs (Decidable (n = name))
  | .table n _ => inferInstanceAs (Decidable (n = name))
  | .positional _ | .key _ | .default _ => inferInstanceAs (Decidable False)

/-! ### The last step for a name counts -/

theorem lastArgument?_cons (s : Step T) (steps : List (Step T)) (name : String) :
    lastArgument? (s :: steps) name = (lastArgument? steps name).or (s.argument? name) := by
  rw [lastArgument?, List.reverse_cons, List.findSome?_append]
  simp [lastArgument?]

/-- **A step binds its own name and keeps all others.** -/
theorem get?_add (call : Call T) (s : Step T) (name : String) :
    (call.add s).arguments.get? name = (s.argument? name).or (call.arguments.get? name) := by
  cases s with
  | argument n value =>
    rw [add, Step.argument?]
    cases value.encode with
    | ok v =>
      rw [ByName.get?_insert]
      by_cases same : n = name
      · simp [same, Except.toOption]
      · simp [same, Ne.symm same]
    | error e =>
      by_cases same : n = name
      · simp [same, Except.toOption, noteFailure]
      · simp [same, noteFailure]
  | table n rows =>
    rw [add, Step.argument?, ByName.get?_insert]
    by_cases same : n = name
    · simp [same]
    · simp [same, Ne.symm same]
  | positional _ => rfl
  | key _ => rfl
  | default value =>
    rw [add]
    split <;> rfl

theorem get?_foldl_add (steps : List (Step T)) (call : Call T) (name : String) :
    (steps.foldl add call).arguments.get? name =
      (lastArgument? steps name).or (call.arguments.get? name) := by
  induction steps generalizing call with
  | nil => rfl
  | cons s steps ih => rw [List.foldl_cons, ih, get?_add, lastArgument?_cons, Option.or_assoc]

/-- **A call's argument is the last one of its name.** -/
theorem get?_ofSteps (steps : List (Step T)) (name : String) :
    (ofSteps steps).arguments.get? name = lastArgument? steps name := by
  rw [ofSteps, get?_foldl_add, show (empty : Call T).arguments.get? name = none from rfl,
    Option.or_none]

theorem Step.argument?_eq_none {s : Step T} {name : String} (h : ¬ s.IsFor name) :
    s.argument? name = none := by
  cases s with
  | argument n value => exact if_neg h
  | table n rows => exact if_neg h
  | _ => rfl

/-- Only the steps for a name bear on its argument. -/
theorem lastArgument?_filter (steps : List (Step T)) (name : String) :
    lastArgument? (steps.filter (·.IsFor name)) name = lastArgument? steps name := by
  induction steps with
  | nil => rfl
  | cons s steps ih =>
    rw [lastArgument?_cons]
    by_cases h : s.IsFor name
    · rw [List.filter_cons_of_pos (by simpa using h), lastArgument?_cons, ih]
    · rw [List.filter_cons_of_neg (by simpa using h), ih, Step.argument?_eq_none h, Option.or_none]

/-! ### Marshalling -/

theorem jsonMembers_eq (entries : List (String × Argument T)) :
    jsonMembers entries = entries.filterMap fun e => (Argument.json? e.2).map (e.1, ·) := by
  induction entries with
  | nil => rfl
  | cons e entries ih =>
    obtain ⟨name, a⟩ := e
    cases a with
    | json v => simp [jsonMembers, Argument.json?, ih]
    | table rows => simp [jsonMembers, Argument.json?, ih]

theorem encodeTables_eq_ok {entries : List (String × Argument T)} {tables : List TableArgument}
    (h : encodeTables encoder entries = .ok tables) :
    (tables.map fun t => (t.key, t.data)) =
      entries.filterMap fun e => (Argument.data? encoder e.2).map (e.1, ·) := by
  induction entries generalizing tables with
  | nil =>
    obtain rfl : [] = tables := Except.ok.inj h
    rfl
  | cons e entries ih =>
    obtain ⟨name, a⟩ := e
    cases a with
    | json v => simpa [Argument.data?] using ih h
    | table rows =>
      rw [encodeTables] at h
      cases hrows : encoder rows with
      | error e => simp [hrows, bind, Except.bind] at h
      | ok data =>
        cases hrest : encodeTables encoder entries with
        | error e => simp [hrows, hrest, bind, Except.bind] at h
        | ok rest =>
          simp only [hrows, hrest, bind, Except.bind, pure, Except.pure, Except.ok.injEq] at h
          subst h
          simp [Argument.data?, hrows, Except.toOption, ih hrest]

/-- **Each part of what a node carries is the arguments of its kind**, by name. -/
theorem marshal_eq_ok {call : Call T} {args : MarshalledArguments}
    (h : call.marshal encoder = .ok args) :
    args.json = (Json.Value.ofByName (call.arguments.filterMap Argument.json?)).text ∧
      (args.tables.map fun t => (t.key, t.data)) =
        (call.arguments.filterMap (Argument.data? encoder)).entries := by
  rw [marshal] at h
  split at h
  · cases h
  · split at h
    · cases h
    · cases htables : encodeTables encoder call.arguments.entries with
      | error e => simp [htables, bind, Except.bind] at h
      | ok tables =>
        simp only [htables, bind, Except.bind, pure, Except.pure, Except.ok.injEq] at h
        subst h
        refine ⟨?_, encodeTables_eq_ok encoder htables⟩
        rw [jsonMembers_eq]
        rfl

/-- What a node carries tells its two parts. -/
theorem args_eq_iff_parts_eq {call call' : Call T} {args args' : MarshalledArguments}
    (ok : call.marshal encoder = .ok args) (ok' : call'.marshal encoder = .ok args') :
    args = args' ↔
      call.arguments.filterMap Argument.json? = call'.arguments.filterMap Argument.json? ∧
        call.arguments.filterMap (Argument.data? encoder) =
          call'.arguments.filterMap (Argument.data? encoder) := by
  obtain ⟨json, tables⟩ := marshal_eq_ok encoder ok
  obtain ⟨json', tables'⟩ := marshal_eq_ok encoder ok'
  constructor
  · rintro rfl
    have values := Json.Value.text_inj (json.symm.trans json')
    exact ⟨ByName.ext (Json.Value.object.inj values), ByName.ext (tables.symm.trans tables')⟩
  · rintro ⟨sameJson, sameTables⟩
    have texts : args.json = args'.json := by rw [json, json', sameJson]
    have lists : args.tables = args'.tables := by
      refine (List.map_inj_right fun t u same => ?_).1 (by rw [tables, tables', sameTables])
      obtain ⟨key, data⟩ := t
      obtain ⟨key', data'⟩ := u
      obtain ⟨rfl, rfl⟩ := Prod.mk.inj same
      rfl
    obtain ⟨_, _⟩ := args
    obtain ⟨_, _⟩ := args'
    obtain rfl := texts
    obtain rfl := lists
    rfl

/-- **What a node carries tells the arguments.** -/
theorem args_eq_iff {call call' : Call T} {args args' : MarshalledArguments}
    (ok : call.marshal encoder = .ok args) (ok' : call'.marshal encoder = .ok args') :
    args = args' ↔ ∀ name, (call.arguments.get? name).bind (Argument.encoded? encoder) =
      (call'.arguments.get? name).bind (Argument.encoded? encoder) := by
  rw [args_eq_iff_parts_eq encoder ok ok']
  constructor
  · rintro ⟨sameJson, sameTables⟩ name
    rw [Argument.bind_encoded?_eq_iff, ← ByName.get?_filterMap, ← ByName.get?_filterMap,
      ← ByName.get?_filterMap, ← ByName.get?_filterMap, sameJson, sameTables]
    exact ⟨rfl, rfl⟩
  · intro same
    have parts := fun name => (Argument.bind_encoded?_eq_iff encoder).1 (same name)
    constructor
    · refine ByName.ext_get? fun name => ?_
      rw [ByName.get?_filterMap, ByName.get?_filterMap]
      exact (parts name).1
    · refine ByName.ext_get? fun name => ?_
      rw [ByName.get?_filterMap, ByName.get?_filterMap]
      exact (parts name).2

end Call

namespace Identity

/-- **Without a key the identity is exactly as fine as the arguments.**  Of two chains of
steps that can be marshalled, both without a key, the inputs are equal exactly if each
name's last successful step leaves the same JSON value or the same table under it.  The
order of steps for different names does not matter. -/
theorem keyless_input_eq_iff [Platform] (kind : String) (c : Declaration)
    {steps steps' : List (Call.Step T)} {args args' : MarshalledArguments}
    (keyless : (Call.ofSteps steps).key = none) (keyless' : (Call.ofSteps steps').key = none)
    (ok : (Call.ofSteps steps).marshal encoder = .ok args)
    (ok' : (Call.ofSteps steps').marshal encoder = .ok args')
    (fits : ∀ f ∈ fields kind c (.ofCall (Call.ofSteps steps).key args), Fits f)
    (fits' : ∀ f ∈ fields kind c (.ofCall (Call.ofSteps steps').key args'), Fits f) :
    (input kind c (.ofCall (Call.ofSteps steps).key args) =
        input kind c (.ofCall (Call.ofSteps steps').key args') ↔
      ∀ name, Call.argumentMap encoder steps name = Call.argumentMap encoder steps' name) ∧
    ((∀ name, steps.filter (·.IsFor name) = steps'.filter (·.IsFor name)) →
      input kind c (.ofCall (Call.ofSteps steps).key args) =
        input kind c (.ofCall (Call.ofSteps steps').key args')) := by
  have tells : input kind c (.ofCall (Call.ofSteps steps).key args) =
        input kind c (.ofCall (Call.ofSteps steps').key args') ↔
      ∀ name, Call.argumentMap encoder steps name = Call.argumentMap encoder steps' name := by
    rw [input_eq_iff_fields_eq fits fits', fields_eq_iff, keyless, keyless']
    have basis : Basis.ofCall none args = Basis.ofCall none args' ↔ args = args' :=
      ⟨Basis.arguments.inj, congrArg _⟩
    rw [basis, Call.args_eq_iff encoder ok ok']
    simp only [Call.get?_ofSteps, Source.sameText_refl, true_and]
    exact Iff.rfl
  refine ⟨tells, fun reordered => tells.2 fun name => ?_⟩
  rw [Call.argumentMap, Call.argumentMap, ← Call.lastArgument?_filter steps, reordered name,
    Call.lastArgument?_filter]

attribute [local instance] Platform.atRoot

/-- Zeros of different sign, under names that are also bound to other kinds on the way. -/
theorem keyless_input_ne_of_signed_zeros :
    let c := Declaration.ofPath "knob" (.ofString "a")
    let steps : List (Call.Step Bytes) :=
      [.table "a" [1], .argument "b" (.seq []), .argument "a" (.float (some (.zero false))),
        .table "b" [2]]
    let steps' : List (Call.Step Bytes) :=
      [.argument "b" (.integer 0), .table "b" [2], .argument "a" (.float (some (.zero true)))]
    let args : MarshalledArguments := ⟨"\x7b\"a\":0.0\x7d", [⟨"b", [2]⟩]⟩
    let args' : MarshalledArguments := ⟨"\x7b\"a\":-0.0\x7d", [⟨"b", [2]⟩]⟩
    (Call.ofSteps steps).marshal Except.ok = .ok args ∧
      (Call.ofSteps steps').marshal Except.ok = .ok args' ∧
        input "component_instance" c (.ofCall (Call.ofSteps steps).key args) ≠
          input "component_instance" c (.ofCall (Call.ofSteps steps').key args') := by
  intro c steps steps' args args'
  have ok : (Call.ofSteps steps).marshal Except.ok = .ok args := rfl
  have ok' : (Call.ofSteps steps').marshal Except.ok = .ok args' := rfl
  refine ⟨ok, ok', fun same => ?_⟩
  have maps := (keyless_input_eq_iff Except.ok "component_instance" c rfl rfl ok ok' (by decide)
    (by decide)).1.1 same "a"
  have zeros : some (EncodedArgument.json (.number (.binary (.zero false)))) =
      some (.json (.number (.binary (.zero true)))) := maps
  injection zeros with zeros
  injection zeros with zeros
  injection zeros with zeros
  injection zeros with zeros
  exact absurd zeros (by decide)

end Identity
end ComponentHost
