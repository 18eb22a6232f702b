import TapeMachine.Shell.Value

/-! Being the same key is an equivalence of the values that may be keys.
Every such value has a form, in which numbers are reduced to what they amount to and functions to
their identity. Two keys are the same exactly if they have one form.
-/

namespace TapeMachine.Shell

/-- What counts of a key. -/
inductive KeyForm where
  | none
  | bool (value : Bool)
  | number (amount : Decimal.Amount)
  | text (value : String)
  | bytes (content : List UInt8)
  | tuple (items : List KeyForm)
  | function (identity : Nat)

mutual

/-- The form of a value that may be a key. -/
def Value.keyForm? : Value → Option KeyForm
  | .none => some .none
  | .bool value => some (.bool value)
  | .int value => some (.number (.finite value))
  | .float value => some (.number (.ofFloat value))
  | .text value => some (.text value)
  | .bytes content => some (.bytes content)
  | .list _ => Option.none
  | .tuple items => (keyForms? items).map .tuple
  | .dict _ => Option.none
  | .function _ identity => some (.function identity)

/-- The forms of values that may all be keys. -/
def keyForms? : List Value → Option (List KeyForm)
  | [] => some []
  | value :: rest => value.keyForm?.bind fun form => (keyForms? rest).map (form :: ·)

end

mutual

/-- Exactly the values that may be keys have a form. -/
theorem Value.isSome_keyForm? (value : Value) : value.keyForm?.isSome = value.isKey := by
  cases value with
  | tuple items => rw [Value.keyForm?, Option.isSome_map, isSome_keyForms?, Value.isKey]
  | _ => rfl

theorem isSome_keyForms? (values : List Value) : (keyForms? values).isSome = areKeys values := by
  cases values with
  | nil => rfl
  | cons value rest =>
      rw [areKeys, ← value.isSome_keyForm?, ← isSome_keyForms? rest, keyForms?]
      cases value.keyForm? <;> cases keyForms? rest <;> rfl

end

mutual

/-- Two keys are the same exactly if they have one form. -/
theorem Value.sameKey_iff (a b : Value)
    : a.sameKey b = true ↔ a.isKey = true ∧ a.keyForm? = b.keyForm? := by
  cases a with
  | tuple items =>
      cases b with
      | tuple others =>
          have apart : ∀ x y, KeyForm.tuple x = .tuple y → x = y := fun _ _ => KeyForm.tuple.inj
          rw [Value.sameKey, Value.isKey, sameKeys_iff items others]
          rw [Value.keyForm?, Value.keyForm?, Option.map_inj_right apart]
      | _ =>
          rw [← Value.isSome_keyForm?]
          cases forms : keyForms? items <;> simp [Value.sameKey, Value.keyForm?, forms]
  | _ =>
      cases b with
      | tuple others =>
          cases forms : keyForms? others <;>
            simp [Value.sameKey, Value.keyForm?, Value.isKey, forms]
      | _ => simp [Value.sameKey, Value.keyForm?, Value.isKey]

theorem sameKeys_iff (as bs : List Value)
    : sameKeys as bs = true ↔ areKeys as = true ∧ keyForms? as = keyForms? bs := by
  cases as with
  | nil =>
      cases bs with
      | nil => simp [sameKeys, areKeys]
      | cons b bs =>
          rw [keyForms?, keyForms?]
          cases b.keyForm? <;> cases keyForms? bs <;> simp [sameKeys]
  | cons a as =>
      rw [areKeys, ← a.isSome_keyForm?, ← isSome_keyForms? as, keyForms?]
      cases bs with
      | nil => cases a.keyForm? <;> cases keyForms? as <;> simp [sameKeys, keyForms?]
      | cons b bs =>
          rw [sameKeys, Bool.and_eq_true, a.sameKey_iff b, sameKeys_iff as bs,
            ← a.isSome_keyForm?, ← isSome_keyForms? as, keyForms?]
          cases a.keyForm? <;> cases b.keyForm? <;> cases keyForms? as <;> cases keyForms? bs <;>
            simp

end

namespace Value

variable {a b c : Value}

theorem sameKey_refl (key : a.isKey = true) : a.sameKey a = true :=
  (sameKey_iff a a).mpr ⟨key, rfl⟩

theorem isKey_of_sameKey (same : a.sameKey b = true) : a.isKey = true :=
  ((sameKey_iff a b).mp same).1

theorem sameKey_comm (a b : Value) : a.sameKey b = b.sameKey a := by
  have turn {a b : Value} (same : a.sameKey b = true) : b.sameKey a = true := by
    obtain ⟨key, form⟩ := (sameKey_iff a b).mp same
    rw [← isSome_keyForm?, form, isSome_keyForm?] at key
    exact (sameKey_iff b a).mpr ⟨key, form.symm⟩
  exact Bool.eq_iff_iff.mpr ⟨turn, turn⟩

/-- The keys that are the same as one of two same keys are those that are the same as the other. -/
theorem sameKey_congr (same : a.sameKey b = true) (c : Value) : a.sameKey c = b.sameKey c := by
  obtain ⟨key, form⟩ := (sameKey_iff a b).mp same
  have other : b.isKey = true := by rwa [← isSome_keyForm?, ← form, isSome_keyForm?]
  apply Bool.eq_iff_iff.mpr
  rw [sameKey_iff, sameKey_iff, form, key, other]

end Value

end TapeMachine.Shell
