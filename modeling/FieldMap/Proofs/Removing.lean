import FieldMap.Proofs.Slots
import FieldMap.Serializer.Builder

/-!
# Taking arguments away

Arguments are taken away by name, one at a time or all but some. One call empties a slot unless it
spares the slot's name (`Arguments.slot_perform`), so a run of calls leaves what every one of them
spares, as it was (`Arguments.slot_run`), and the order of the calls does not matter
(`Arguments.run_filters`). Builders take arguments away by keys; this is a run of such calls too
(`Arguments.makeReadOnly_eq_run`, `Arguments.filter_contains_eq_retain`).
-/

namespace FieldMap.Arguments

/-! ## Calls -/

/-- A call that takes arguments away. -/
inductive Removal where
  | remove (name : String)
  /-- All names but the allowed ones. -/
  | retain (allowed : List String)

/-- Whether a call leaves an argument of a name where it is. -/
def Removal.Spares : Removal → String → Prop
  | .remove removed, name => name ≠ removed
  | .retain allowed, name => name ∈ allowed

instance (call : Removal) (name : String) : Decidable (call.Spares name) :=
  match call with
  | .remove removed => inferInstanceAs (Decidable (name ≠ removed))
  | .retain allowed => inferInstanceAs (Decidable (name ∈ allowed))

/-- One call: what it answers, if anything, and the arguments afterwards. -/
def perform (a : Arguments) : Removal → Option Bool × Arguments
  | .remove name => (some (a.remove name).1, (a.remove name).2)
  | .retain allowed => (none, a.retain allowed)

/-- Calls one after the other: what they answer, and the arguments at the end. -/
def run (a : Arguments) : List Removal → List (Option Bool) × Arguments
  | [] => ([], a)
  | call :: calls =>
    let rest := (a.perform call).2.run calls
    ((a.perform call).1 :: rest.1, rest.2)

/-! ## One call -/

theorem slot_remove (a : Arguments) (name : String) (key : Key) :
    (a.remove name).2.slot key = if key.name ≠ name then a.slot key else none := by
  rw [remove, slot_filter]
  exact if_congr bne_iff_ne rfl rfl

/-- Removing those of some names that are not allowed, one after the other. -/
theorem slot_foldl_remove (a : Arguments) (names allowed : List String) (key : Key) :
    (names.foldl (fun left name => if allowed.contains name then left else (left.remove name).2)
      a).slot key = if key.name ∈ names ∧ key.name ∉ allowed then none else a.slot key := by
  induction names generalizing a with
  | nil => simp
  | cons name names ih =>
    rw [List.foldl_cons, ih]
    by_cases ha : key.name ∈ allowed
    · by_cases hn : name ∈ allowed
      · simp [ha, hn]
      · have hne : key.name ≠ name := fun h => hn (h ▸ ha)
        simp [ha, hn, slot_remove, hne]
    · by_cases hne : key.name = name
      · simp [← hne, ha, slot_remove]
      · by_cases hn : name ∈ allowed
        · simp [ha, hn, hne]
        · simp [ha, hn, hne, slot_remove]

theorem slot_retain (a : Arguments) (allowed : List String) (key : Key) :
    (a.retain allowed).slot key = if key.name ∈ allowed then a.slot key else none := by
  rw [retain, slot_foldl_remove]
  by_cases ha : key.name ∈ allowed
  · simp [ha]
  · by_cases hp : key.name ∈ a.keys
    · simp [ha, hp]
    · have hnone : a.slot key = none := by
        rwa [mem_keys_iff, Bool.not_eq_true, Option.isSome_eq_false_iff, Option.isNone_iff_eq_none]
          at hp
      simp [hnone]

/-- A call empties the slots that it does not spare. -/
theorem slot_perform (a : Arguments) (call : Removal) (key : Key) :
    (a.perform call).2.slot key = if call.Spares key.name then a.slot key else none := by
  cases call with
  | remove name => exact slot_remove a name key
  | retain allowed => exact slot_retain a allowed key

/-! ## Runs -/

/-- A run goes on from the arguments that its first part leaves. -/
theorem run_append (a : Arguments) (calls later : List Removal) :
    a.run (calls ++ later) =
      ((a.run calls).1 ++ ((a.run calls).2.run later).1, ((a.run calls).2.run later).2) := by
  induction calls generalizing a with
  | nil => rfl
  | cons call calls ih =>
    rw [List.cons_append, run, ih]
    rfl

theorem length_run (a : Arguments) (calls : List Removal) :
    (a.run calls).1.length = calls.length := by
  induction calls generalizing a with
  | nil => rfl
  | cons call calls ih => exact congrArg (· + 1) (ih _)

/-- A run leaves the slots that all its calls spare, and empties the others. -/
theorem slot_run (a : Arguments) (calls : List Removal) (key : Key) :
    (a.run calls).2.slot key =
      if ∀ call ∈ calls, call.Spares key.name then a.slot key else none := by
  induction calls generalizing a with
  | nil => simp [run]
  | cons call calls ih =>
    show ((a.perform call).2.run calls).2.slot key = _
    rw [ih, slot_perform]
    by_cases h : call.Spares key.name <;> simp [h]

theorem keys_run (a : Arguments) (calls : List Removal) :
    (a.run calls).2.keys = a.keys.filter fun name => ∀ call ∈ calls, call.Spares name := by
  have hhas : (a.run calls).2.has = fun key =>
      decide (∀ call ∈ calls, call.Spares key.name) && a.has key := by
    funext key
    rw [has_eq_isSome_slot, slot_run, has_eq_isSome_slot]
    by_cases h : ∀ call ∈ calls, call.Spares key.name
    · rw [if_pos h, decide_eq_true h, Bool.true_and]
    · rw [if_neg h, decide_eq_false h, Bool.false_and, Option.isSome_none]
  rw [keys, keys, hhas, List.filter_map, List.filter_filter]
  rfl

/-- Neither the order of calls nor how often each is made matters to what they leave. -/
theorem run_congr (a : Arguments) {calls calls' : List Removal}
    (h : ∀ call, call ∈ calls ↔ call ∈ calls') : (a.run calls).2 = (a.run calls').2 :=
  ext_slot fun key => by
    rw [slot_run, slot_run]
    exact if_congr (forall_congr' fun call => imp_congr_left (h call)) rfl rfl

/-- Retaining twice is retaining what both calls allow. -/
theorem retain_retain (a : Arguments) (allowed allowed' : List String) :
    (a.retain allowed).retain allowed' = a.retain (allowed.filter (allowed'.contains ·)) :=
  ext_slot fun key => by
    rw [slot_retain, slot_retain, slot_retain, ← ite_and]
    refine if_congr ?_ rfl rfl
    rw [List.mem_filter, List.contains_iff_mem, and_comm]

/-- Whatever is called, in whatever order, each slot that all calls spare is as it was, and every
other one is empty. The names of what is left keep their order. A removal answers whether an
argument of that name was there when it was called; for a name that no key has it was not. Calls in
another order leave the same arguments, and of two calls to retain names, each keeps only what the
other allows too. -/
theorem run_filters (a : Arguments) (calls : List Removal) :
    (∀ key : Key, (a.run calls).2.slot key =
      if ∀ call ∈ calls, call.Spares key.name then a.slot key else none) ∧
    ((a.run calls).2.keys = a.keys.filter fun name => ∀ call ∈ calls, call.Spares name) ∧
    (∀ before name after, calls = before ++ .remove name :: after →
      ∃ earlier present rest, (a.run calls).1 = earlier ++ some present :: rest ∧
        earlier.length = before.length ∧
        (present = true ↔
          ∃ key : Key, key.name = name ∧ ((a.run before).2.slot key).isSome = true) ∧
        (name ∉ allKeys → present = false)) ∧
    (∀ calls', calls.Perm calls' → (a.run calls).2 = (a.run calls').2) ∧
    ∀ allowed allowed', (a.retain allowed).retain allowed' =
      a.retain (allowed.filter (allowed'.contains ·)) := by
  refine ⟨slot_run a calls, keys_run a calls, fun before name after h => ?_,
    fun calls' hp => a.run_congr fun call => hp.mem_iff, retain_retain a⟩
  subst h
  have hpresent : (a.run before).2.contains name = true ↔
      ∃ key : Key, key.name = name ∧ ((a.run before).2.slot key).isSome = true := by
    rw [contains, List.contains_iff_mem, mem_keys_iff_exists]
  refine ⟨(a.run before).1, (a.run before).2.contains name,
    ((a.run before).2.remove name).2.run after |>.1, ?_, length_run a before, hpresent,
    fun hn => ?_⟩
  · rw [run_append]
    rfl
  · rw [← Bool.not_eq_true, hpresent]
    rintro ⟨key, rfl, -⟩
    exact hn (List.mem_map_of_mem key.mem_all)

/-- A name that was there, one that was not, and one that no key has. -/
example : (({ label := some "Age", required := some true } : Arguments).run
    [.remove "label", .retain ["required", "size"], .remove "size", .remove "label"]).1 =
      [some true, none, some false, some false] := by
  decide

/-! ## Builders -/

/-- Retaining the names of keys is filtering by these keys. -/
theorem filter_contains_eq_retain (a : Arguments) (wanted : List Key) :
    a.filter (wanted.contains ·) = a.retain (wanted.map Key.name) :=
  ext_slot fun key => by
    rw [slot_filter, slot_retain]
    exact if_congr (List.contains_iff_mem.trans
      (List.mem_map_of_injective Key.name_injective).symm) rfl rfl

/-- Arguments are made read only by saying so and removing what speaks of written values. -/
theorem makeReadOnly_eq_run (a : Arguments) :
    a.makeReadOnly = ({ a with readOnly := some true }.run
      (writingKeys.map fun key : Key => .remove key.name)).2 :=
  ext_slot fun key => by
    have hspares : (∀ call ∈ writingKeys.map fun key : Key => Removal.remove key.name,
        call.Spares key.name) ↔ key ∉ writingKeys := by
      rw [List.forall_mem_map]
      exact ⟨fun h hk => h key hk rfl, fun h k hk he => h (Key.name_injective he ▸ hk)⟩
    rw [makeReadOnly, slot_filter, slot_run]
    refine if_congr ?_ rfl rfl
    rw [hspares, Bool.not_eq_true', ← Bool.not_eq_true, List.contains_iff_mem]

end FieldMap.Arguments
