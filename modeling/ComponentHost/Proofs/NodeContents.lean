/-
# What a node carries

The steps of a call may bind a name again and again, now to a value and now to a table; the
node that comes of them holds each name once.  What was bound to a value last is a member of
its JSON object, what was bound to a table last is one of its tables, and both lists are in
the order of the names' octets.

| Steps | Same node |
|-------|-----------|
| with keys put in, taken out or changed | yes (`marshal_withoutKeys`) |
| in another order, but the same for each name | yes (`marshal_of_reordered`) |
| with the same last step for each name | yes, if they can be marshalled (`args_eq_of_lastFor?`) |

Once a call can be marshalled no value has failed, so the last step for a name is the last
successful one (`lastArgument?_eq_bind`), and what is known of the latter holds of the former.
`create_carries_arguments` puts this together for the builder that the host's sink is given.
-/

import ComponentHost.Proofs.CallFailures

namespace ComponentHost

namespace Call

variable {T : Type} (encoder : T → Except Error Bytes)

/-- The last step for a name. -/
def lastFor? (steps : List (Step T)) (name : String) : Option (Step T) :=
  steps.reverse.find? (·.IsFor name)

/-- The steps that set no key. -/
def withoutKeys (steps : List (Step T)) : List (Step T) := steps.filter (·.key?.isNone)

/-! ### When a call can be marshalled -/

/-- **A call can be marshalled exactly if nothing went wrong**, of whichever kind. -/
theorem marshal_isOk_iff {steps : List (Step T)} :
    (∃ args, (ofSteps steps).marshal encoder = .ok args) ↔
      steps.findSome? Step.positional? = none ∧ steps.findSome? Step.failure? = none ∧
        ¬ ∃ name e, TableFails encoder steps name e := by
  cases labelled : steps.findSome? Step.positional? with
  | some value => simp [(marshal_of_positional encoder labelled).1]
  | none =>
    cases encodable : steps.findSome? Step.failure? with
    | some failure =>
      obtain ⟨name, e⟩ := failure
      simp [(marshal_of_failure encoder labelled encodable).1]
    | none =>
      rw [(marshal_of_encodable encoder labelled encodable).1, ← encodeTables_isOk_iff]
      cases encodeTables encoder (ofSteps steps).arguments.entries <;> simp [Except.map]

/-- Marshalling sees the arguments and what went wrong before, and nothing else. -/
theorem marshal_congr {call call' : Call T} (positional : call.positional = call'.positional)
    (arguments : call.arguments = call'.arguments)
    (unencodable : call.unencodable = call'.unencodable) :
    call.marshal encoder = call'.marshal encoder := by
  rw [marshal, marshal, positional, arguments, unencodable]

/-! ### The last step for a name -/

/-- A step for a name binds it, unless its value cannot be encoded. -/
theorem Step.exists_argument? {s : Step T} {name : String} (h : s.IsFor name)
    (encodable : s.failure? = none) : ∃ a, s.argument? name = some a := by
  cases s with
  | argument n value =>
    obtain rfl : n = name := h
    rw [failure?] at encodable
    cases hv : value.encode with
    | ok v => exact ⟨.json v, by simp [argument?, hv, Except.toOption]⟩
    | error e => simp [hv] at encodable
  | table n rows =>
    obtain rfl : n = name := h
    exact ⟨.table rows, if_pos rfl⟩
  | positional _ => exact absurd h id
  | key _ => exact absurd h id
  | default _ => exact absurd h id

/-- **Where no value failed, the last step for a name is the one that counts.** -/
theorem lastArgument?_eq_bind {steps : List (Step T)}
    (encodable : steps.findSome? Step.failure? = none) (name : String) :
    lastArgument? steps name = (lastFor? steps name).bind (Step.argument? name) := by
  have each : ∀ s ∈ steps.reverse, s.failure? = none := fun s hs =>
    List.findSome?_eq_none_iff.1 encodable s (List.mem_reverse.1 hs)
  rw [lastArgument?, lastFor?]
  generalize steps.reverse = latest at each
  induction latest with
  | nil => rfl
  | cons s earlier ih =>
    have rest := ih fun t ht => each t (List.mem_cons_of_mem _ ht)
    by_cases here : s.IsFor name
    · obtain ⟨a, ha⟩ := Step.exists_argument? here (each s (List.mem_cons_self ..))
      rw [List.findSome?_cons, List.find?_cons_of_pos (by simpa using here), ha]
      exact ha.symm
    · rw [List.findSome?_cons, List.find?_cons_of_neg (by simpa using here),
        Step.argument?_eq_none here, rest]

theorem lastArgument?_eq_json_iff {steps : List (Step T)}
    (encodable : steps.findSome? Step.failure? = none) {name : String} {v : Json.Value} :
    lastArgument? steps name = some (.json v) ↔
      ∃ value, lastFor? steps name = some (.argument name value) ∧ value.encode = .ok v := by
  rw [lastArgument?_eq_bind encodable, Option.bind_eq_some_iff]
  constructor
  · rintro ⟨s, last, bound⟩
    cases s with
    | argument n value =>
      rw [Step.argument?] at bound
      split at bound
      · rename_i same
        subst same
        cases hv : value.encode with
        | ok w =>
          obtain rfl : w = v := by simpa [hv, Except.toOption] using bound
          exact ⟨value, last, hv⟩
        | error e => simp [hv, Except.toOption] at bound
      · cases bound
    | table n rows => simp [Step.argument?] at bound
    | positional _ => cases bound
    | key _ => cases bound
    | default _ => cases bound
  · rintro ⟨value, last, hv⟩
    exact ⟨_, last, by simp [Step.argument?, hv, Except.toOption]⟩

theorem lastArgument?_eq_table_iff {steps : List (Step T)}
    (encodable : steps.findSome? Step.failure? = none) {name : String} {rows : T} :
    lastArgument? steps name = some (.table rows) ↔
      lastFor? steps name = some (.table name rows) := by
  rw [lastArgument?_eq_bind encodable, Option.bind_eq_some_iff]
  constructor
  · rintro ⟨s, last, bound⟩
    cases s with
    | argument n value =>
      rw [Step.argument?] at bound
      cases value.encode <;> simp [Except.toOption] at bound
    | table n rows' =>
      rw [Step.argument?] at bound
      split at bound
      · rename_i same
        subst same
        obtain rfl : rows' = rows := by simpa using bound
        exact last
      · cases bound
    | positional _ => cases bound
    | key _ => cases bound
    | default _ => cases bound
  · intro last
    exact ⟨_, last, if_pos rfl⟩

/-- A name is bound exactly if there is a step for it. -/
theorem exists_lastArgument?_iff {steps : List (Step T)}
    (encodable : steps.findSome? Step.failure? = none) {name : String} :
    (∃ a, lastArgument? steps name = some a) ↔ ∃ s ∈ steps, s.IsFor name := by
  constructor
  · rintro ⟨a, bound⟩
    obtain ⟨s, hs, binds⟩ := List.exists_of_findSome?_eq_some bound
    refine ⟨s, List.mem_reverse.1 hs, ?_⟩
    by_contra other
    rw [Step.argument?_eq_none other] at binds
    cases binds
  · rintro ⟨s, hs, here⟩
    obtain ⟨a, binds⟩ := Step.exists_argument? here (List.findSome?_eq_none_iff.1 encodable s hs)
    refine Option.ne_none_iff_exists'.1 fun none => ?_
    rw [List.findSome?_eq_none_iff.1 none s (List.mem_reverse.2 hs)] at binds
    cases binds

/-! ### The two parts of a node's arguments -/

/-- The values that are bound, by name. -/
def members (steps : List (Step T)) : ByName Json.Value :=
  (ofSteps steps).arguments.filterMap Argument.json?

theorem mem_members_iff {steps : List (Step T)} {name : String} {v : Json.Value} :
    (name, v) ∈ (members steps).entries ↔ lastArgument? steps name = some (.json v) := by
  rw [members, ByName.mem_entries_iff, ByName.get?_filterMap, get?_ofSteps]
  rcases lastArgument? steps name with _ | (_ | _) <;> simp [Argument.json?]

/-- The tables of a call that can be marshalled, in the order of their names. -/
theorem tables_increasing {call : Call T} {args : MarshalledArguments}
    (ok : call.marshal encoder = .ok args) :
    args.tables.Pairwise fun t u => Utf8.encode t.key < Utf8.encode u.key := by
  have increasing := (call.arguments.filterMap (Argument.data? encoder)).increasing
  rw [← (marshal_eq_ok encoder ok).2, List.pairwise_map] at increasing
  exact increasing.imp fun less => Utf8.encode_lt_encode.2 less

theorem mem_tables_iff {steps : List (Step T)} {args : MarshalledArguments}
    (ok : (ofSteps steps).marshal encoder = .ok args) {name : String} {data : Bytes} :
    ⟨name, data⟩ ∈ args.tables ↔
      ∃ rows, lastArgument? steps name = some (.table rows) ∧ encoder rows = .ok data := by
  have listed : ⟨name, data⟩ ∈ args.tables ↔
      (name, data) ∈ args.tables.map fun t => (t.key, t.data) := by
    rw [List.mem_map]
    constructor
    · exact fun mem => ⟨_, mem, rfl⟩
    · rintro ⟨⟨key, data'⟩, mem, same⟩
      obtain ⟨rfl, rfl⟩ := Prod.mk.inj same
      exact mem
  rw [listed, (marshal_eq_ok encoder ok).2, ByName.mem_entries_iff, ByName.get?_filterMap,
    get?_ofSteps]
  rcases lastArgument? steps name with _ | (_ | rows)
  · simp
  · simp [Argument.data?]
  · cases h : encoder rows <;> simp [Argument.data?, h, Except.toOption]

/-- **Each name is in one part of the node**, and the parts hold no other names. -/
theorem mem_parts_iff {steps : List (Step T)} {args : MarshalledArguments}
    (ok : (ofSteps steps).marshal encoder = .ok args) (name : String) :
    (name ∈ (members steps).names ∨ name ∈ args.tables.map (·.key) ↔
      ∃ s ∈ steps, s.IsFor name) ∧
    ¬ (name ∈ (members steps).names ∧ name ∈ args.tables.map (·.key)) := by
  obtain ⟨-, encodable, fine⟩ := (marshal_isOk_iff encoder).1 ⟨args, ok⟩
  have value : name ∈ (members steps).names ↔ ∃ v, lastArgument? steps name = some (.json v) := by
    simp [ByName.names, mem_members_iff]
  have table : name ∈ args.tables.map (·.key) ↔
      ∃ rows, lastArgument? steps name = some (.table rows) := by
    rw [List.mem_map]
    constructor
    · rintro ⟨t, mem, rfl⟩
      obtain ⟨rows, bound, -⟩ := (mem_tables_iff encoder ok).1 mem
      exact ⟨rows, bound⟩
    · rintro ⟨rows, bound⟩
      cases h : encoder rows with
      | ok data => exact ⟨⟨name, data⟩, (mem_tables_iff encoder ok).2 ⟨rows, bound, h⟩, rfl⟩
      | error e => exact absurd ⟨name, e, rows, bound, h⟩ fine
  rw [value, table, ← exists_lastArgument?_iff encodable]
  rcases lastArgument? steps name with _ | (_ | _) <;> simp

/-! ### Steps that make the same node -/

/-- What a key has no part in is found without the keys. -/
theorem findSome?_withoutKeys {α : Type} {f : Step T → Option α} (h : ∀ k, f (.key k) = none)
    (steps : List (Step T)) : (withoutKeys steps).findSome? f = steps.findSome? f := by
  induction steps with
  | nil => rfl
  | cons s rest ih =>
    cases s with
    | key k =>
      have dropped : withoutKeys (.key k :: rest) = withoutKeys rest := rfl
      rw [dropped, ih, List.findSome?_cons, h]
    | _ =>
      rw [List.findSome?_cons, ← ih]
      rfl

/-- **Keys do not enter the arguments.** -/
theorem marshal_withoutKeys (steps : List (Step T)) :
    (ofSteps (withoutKeys steps)).marshal encoder = (ofSteps steps).marshal encoder := by
  refine marshal_congr encoder ?_ (ByName.ext_get? fun name => ?_) ?_
  · rw [positional_ofSteps, positional_ofSteps, withoutKeys, List.filterMap_filter]
    refine List.filterMap_congr fun s _ => ?_
    cases s <;> rfl
  · have latest : (withoutKeys steps).reverse = withoutKeys steps.reverse :=
      List.filter_reverse.symm
    rw [get?_ofSteps, get?_ofSteps, lastArgument?, lastArgument?, latest,
      findSome?_withoutKeys fun _ => rfl]
  · rw [unencodable_ofSteps, unencodable_ofSteps, findSome?_withoutKeys fun _ => rfl]

/-- **Steps for different names can change places.** -/
theorem marshal_of_reordered {steps steps' : List (Step T)} {args : MarshalledArguments}
    (ok : (ofSteps steps).marshal encoder = .ok args) (perm : steps'.Perm steps)
    (order : ∀ name, steps'.filter (·.IsFor name) = steps.filter (·.IsFor name)) :
    (ofSteps steps').marshal encoder = .ok args := by
  obtain ⟨labelled, encodable, -⟩ := (marshal_isOk_iff encoder).1 ⟨args, ok⟩
  -- What no step does, no step does in another order.
  have nowhere : ∀ {α : Type} {f : Step T → Option α}, steps.findSome? f = none →
      steps'.findSome? f = none := fun none =>
    List.findSome?_eq_none_iff.2 fun s hs =>
      List.findSome?_eq_none_iff.1 none s (perm.mem_iff.1 hs)
  rw [← ok]
  refine marshal_congr encoder ?_ (ByName.ext_get? fun name => ?_) ?_
  · rw [positional_eq_nil labelled, positional_eq_nil (nowhere labelled)]
  · rw [get?_ofSteps, get?_ofSteps, ← lastArgument?_filter, order name, lastArgument?_filter]
  · rw [unencodable_ofSteps, unencodable_ofSteps, encodable, nowhere encodable]

/-- **The last steps decide.** -/
theorem args_eq_of_lastFor? {steps steps' : List (Step T)} {args args' : MarshalledArguments}
    (ok : (ofSteps steps).marshal encoder = .ok args)
    (ok' : (ofSteps steps').marshal encoder = .ok args')
    (last : ∀ name, lastFor? steps' name = lastFor? steps name) : args' = args := by
  obtain ⟨-, encodable, -⟩ := (marshal_isOk_iff encoder).1 ⟨args, ok⟩
  obtain ⟨-, encodable', -⟩ := (marshal_isOk_iff encoder).1 ⟨args', ok'⟩
  refine (args_eq_iff encoder ok' ok).2 fun name => ?_
  rw [get?_ofSteps, get?_ofSteps, lastArgument?_eq_bind encodable,
    lastArgument?_eq_bind encodable', last]

end Call

namespace Declaration

variable {σ T : Type}

/-- A component has an address exactly if it is remote. -/
theorem url?_eq_some_iff {c : Declaration} {address : String} :
    c.url? = some address ↔ c.source = .url address := by
  obtain ⟨name, source⟩ := c
  cases source <;> simp [url?]

/-- **A node carries each argument once, in a form that does not tell the order of the
steps.**  Of a call that can be marshalled the host's sink is given a builder, and in
whichever state the sink runs it, the node has the name of the component, its address if it
is remote, and two lists in the order of names: a JSON object of the values and the tables.
A name's value or table is that of the last step for the name, as its encoder gives it; so
each name for which there is a step is in one of the lists, and no other name is.

Putting in, taking out or changing keys leaves the node as it is, and so does another order
of the steps that keeps the order of those for each name.  Any two calls with the same last
step for each name have the same arguments; if their last keys are the same too, then they
have the same identity. -/
theorem create_carries_arguments [Platform] (host : Host σ T) (c : Declaration)
    (steps : List (Call.Step T)) (args : MarshalledArguments)
    (ok : (Call.ofSteps steps).marshal host.encodeTable = .ok args) :
    (∃ members : List (String × Json.Value),
      (∀ state, ((c.create host (Call.ofSteps steps) state).result,
          (c.create host (Call.ofSteps steps) state).state) =
        host.enqueue Settings.nodeKind (c.build host (Call.ofSteps steps) args) state) ∧
      (∀ state, (c.build host (Call.ofSteps steps) args state).1 =
        ⟨c.name, c.url?, (Json.Value.object members).text, args.tables⟩) ∧
      (∀ address, c.url? = some address ↔ c.source = .url address) ∧
      (members.Pairwise fun m m' => Utf8.encode m.1 < Utf8.encode m'.1) ∧
      (∀ name v, (name, v) ∈ members ↔
        ∃ value, Call.lastFor? steps name = some (.argument name value) ∧
          value.encode = .ok v) ∧
      (args.tables.Pairwise fun t t' => Utf8.encode t.key < Utf8.encode t'.key) ∧
      (∀ name data, ⟨name, data⟩ ∈ args.tables ↔
        ∃ rows, Call.lastFor? steps name = some (.table name rows) ∧
          host.encodeTable rows = .ok data) ∧
      ∀ name,
        (name ∈ members.map (·.1) ∨ name ∈ args.tables.map (·.key) ↔
          ∃ s ∈ steps, s.IsFor name) ∧
        ¬ (name ∈ members.map (·.1) ∧ name ∈ args.tables.map (·.key))) ∧
    (∀ steps', Call.withoutKeys steps' = Call.withoutKeys steps →
      (Call.ofSteps steps').marshal host.encodeTable = .ok args ∧
        ∀ state, (c.build host (Call.ofSteps steps') args state).1 =
          (c.build host (Call.ofSteps steps) args state).1) ∧
    (∀ steps', steps'.Perm steps →
      (∀ name, steps'.filter (·.IsFor name) = steps.filter (·.IsFor name)) →
        (Call.ofSteps steps').marshal host.encodeTable = .ok args) ∧
    ∀ steps' args', (Call.ofSteps steps').marshal host.encodeTable = .ok args' →
      (∀ name, Call.lastFor? steps' name = Call.lastFor? steps name) →
        args' = args ∧
        (steps'.reverse.findSome? Call.Step.key? = steps.reverse.findSome? Call.Step.key? →
          c.query (Call.ofSteps steps').key args' = c.query (Call.ofSteps steps).key args) := by
  obtain ⟨-, encodable, -⟩ := (Call.marshal_isOk_iff host.encodeTable).1 ⟨args, ok⟩
  refine ⟨⟨(Call.members steps).entries, fun state => create_of_ok ok, fun state => ?_,
    fun address => url?_eq_some_iff, ?_, fun name v => ?_,
    Call.tables_increasing host.encodeTable ok, fun name data => ?_,
    Call.mem_parts_iff host.encodeTable ok⟩, fun steps' same => ⟨?_, fun state => rfl⟩,
    fun steps' => Call.marshal_of_reordered host.encodeTable ok, fun steps' args' ok' last => ?_⟩
  · have json : args.json = (Json.Value.object (Call.members steps).entries).text :=
      (Call.marshal_eq_ok host.encodeTable ok).1
    rw [← json]
    rfl
  · exact (Call.members steps).increasing.imp fun less => Utf8.encode_lt_encode.2 less
  · rw [Call.mem_members_iff, Call.lastArgument?_eq_json_iff encodable]
  · rw [Call.mem_tables_iff host.encodeTable ok]
    simp only [Call.lastArgument?_eq_table_iff encodable]
  · rw [← Call.marshal_withoutKeys, same, Call.marshal_withoutKeys, ok]
  · have sameArgs := Call.args_eq_of_lastFor? host.encodeTable ok ok' last
    refine ⟨sameArgs, fun keys => ?_⟩
    rw [sameArgs, Call.key_ofSteps, Call.key_ofSteps, keys]

attribute [local instance] Platform.atRoot

/-- Names that change their kind on the way, on a page that keeps what it builds: two values
under `é` and a table under `b` are not on the node.  With the steps in another order and
under another key the node is the same. -/
theorem create_carries_arguments_of_overrides :
    let c := Declaration.ofUrl "knob" "http://localhost"
    let host := Page.host .keep
    let steps : List (Call.Step Table) :=
      [.table "b" (.rows [1]), .argument "é" (.integer 1), .key "k", .argument "a" .unit,
        .argument "é" (.integer 2), .argument "b" (.char 'v'), .table "é" (.rows [2, 3])]
    let reordered : List (Call.Step Table) :=
      [.argument "é" (.integer 1), .table "b" (.rows [1]), .key "k", .argument "a" .unit,
        .argument "é" (.integer 2), .table "é" (.rows [2, 3]), .argument "b" (.char 'v')]
    let args : MarshalledArguments := ⟨"\x7b\"a\":null,\"b\":\"v\"\x7d", [⟨"é", [2, 3]⟩]⟩
    (Call.ofSteps steps).marshal host.encodeTable = .ok args ∧
      (c.create host (Call.ofSteps steps) .empty).state.nodes =
        [("component", ⟨"knob", some "http://localhost", args.json, args.tables⟩)] ∧
      reordered.Perm steps ∧ (Call.ofSteps reordered).marshal host.encodeTable = .ok args ∧
      (Call.ofSteps (.key "other" :: reordered)).marshal host.encodeTable = .ok args := by
  intro c host steps reordered args
  have ok : (Call.ofSteps steps).marshal host.encodeTable = .ok args := rfl
  obtain ⟨⟨members, asked, -⟩, -, reorder, -⟩ := create_carries_arguments host c steps args ok
  have perm : reordered.Perm steps :=
    .trans (.swap ..) (.cons _ (.cons _ (.cons _ (.cons _ (.cons _ (.swap ..))))))
  have order : ∀ name, reordered.filter (·.IsFor name) = steps.filter (·.IsFor name) := by
    intro name
    by_cases b : name = "b"
    · rw [b]
      rfl
    by_cases e : name = "é"
    · rw [e]
      rfl
    · simp [reordered, steps, Call.Step.IsFor, Ne.symm b, Ne.symm e, List.filter_cons]
  have again := reorder reordered perm order
  obtain ⟨-, keys, -⟩ := create_carries_arguments host c reordered args again
  exact ⟨ok, congrArg (·.2.nodes) (asked .empty), perm, again,
    (keys (.key "other" :: reordered) rfl).1⟩

end Declaration
end ComponentHost
