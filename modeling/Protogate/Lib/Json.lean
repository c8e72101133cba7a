import Protogate.Lib.Text

/-!
# JSON values

The values of a JSON library and the accessors that read them.  An accessor
applied to a value of the wrong type throws; here it returns `none`.

## Main definitions

* `Json` — the values.
* `Json.field`, `Json.set` — reading and writing the fields of an object.
* `Json.value` — a field with a default for the case that it is absent.
* `Json.getString`, `Json.getInt`, `Json.getUnsigned`, `Json.getBool`, `Json.getInt64`,
  `Json.getStrings` — the conversions.
-/

namespace Protogate.Lib

/-- A JSON value.  A floating-point number is kept by its integral part, which is all that a
conversion to an integer reads, and by what comes out of a conversion to a type that does not
hold this part: the language leaves that open, so it is any number. -/
inductive Json
  | null
  | bool (b : Bool)
  | number (n : ℤ)
  | float (truncated otherwise : ℤ)
  | str (s : Str)
  | array (elements : List Json)
  | object (fields : List (Str × Json))

namespace Json

/-- `j[key]`, when `j` is an object that has the key. -/
def field (j : Json) (key : Str) : Option Json :=
  match j with
  | object fields => fields.lookup key
  | _ => none

/-- `j[key] = v` on an object. -/
def set (j : Json) (key : Str) (v : Json) : Json :=
  match j with
  | object fields => object ((key, v) :: fields.filter (·.1 ≠ key))
  | j => j

/-- `j.get<std::string>()`. -/
def getString : Json → Option Str
  | str s => some s
  | _ => none

/-- The conversion of a floating-point number to an integer type with the values from `low` to
below `high`. -/
def castFloat (low high truncated otherwise : ℤ) : ℤ :=
  if low ≤ truncated ∧ truncated < high then truncated else otherwise

/-- `j.get<int>()`, an integer before its conversion to the width of the type. -/
def getInt : Json → Option ℤ
  | number n => some n
  | float n otherwise => some (castFloat (-2 ^ 31) (2 ^ 31) n otherwise)
  | bool b => some (if b then 1 else 0)
  | _ => none

/-- `j.get<uint16_t>()` and `j.get<uint32_t>()`: an integer is reduced to the width of the type. -/
def getUnsigned (bits : ℕ) : Json → Option ℕ
  | number n => some (n % 2 ^ bits).toNat
  | float n otherwise => some (castFloat 0 (2 ^ bits) n otherwise % 2 ^ bits).toNat
  | bool b => some (if b then 1 else 0)
  | _ => none

/-- `j.get<bool>()`. -/
def getBool : Json → Option Bool
  | bool b => some b
  | _ => none

/-- `j.get<int64_t>()`, which takes no Boolean; an unsigned number beyond the range
is reinterpreted. -/
def getInt64 : Json → Option ℤ
  | number n => some (n.bmod (2 ^ 64))
  | float n otherwise => some ((castFloat (-2 ^ 63) (2 ^ 63) n otherwise).bmod (2 ^ 64))
  | _ => none

/-- The elements of an array of strings. -/
def getStrings (elements : List Json) : Option (List Str) := elements.mapM getString

@[simp] theorem getStrings_map_str (strings : List Str) :
    getStrings (strings.map str) = some strings := by
  induction strings with
  | nil => rfl
  | cons s strings ih =>
      rw [getStrings] at ih
      simp [getStrings, List.mapM_cons, getString, ih]

/-- `j.value(key, default)`: it throws unless `j` is an object and the field, if
present, converts. -/
def value {α : Type} (j : Json) (convert : Json → Option α) (key : Str) (default : α) :
    Option α :=
  match j with
  | object fields =>
      match fields.lookup key with
      | none => some default
      | some v => convert v
  | _ => none

theorem getString_eq_some_iff {j : Json} {s : Str} : j.getString = some s ↔ j = .str s := by
  cases j <;> simp [getString]

/-- A converted number fits into its type. -/
theorem getUnsigned_lt {bits : ℕ} (hbits : 0 < bits) {j : Json} {n : ℕ}
    (h : j.getUnsigned bits = some n) : n < 2 ^ bits := by
  have hmod : ∀ m : ℤ, (m % 2 ^ bits).toNat < 2 ^ bits := fun m =>
    (Int.toNat_lt_of_ne_zero (by positivity)).mpr (by exact_mod_cast Int.emod_lt_of_pos m (by positivity))
  cases j with
  | number m =>
      cases h
      exact hmod m
  | float m otherwise =>
      cases h
      exact hmod _
  | bool b =>
      cases h
      have htwo : 2 ^ 1 ≤ 2 ^ bits := Nat.pow_le_pow_right (by decide) hbits
      split <;> omega
  | null | str _ | array _ | object _ => cases h

/-- A field that is read is there and converts, or the default stands for it. -/
theorem field_of_value {α : Type} {j : Json} {convert : Json → Option α} {key : Str} {default a : α}
    (h : j.value convert key default = some a) :
    (j.field key = none ∧ a = default) ∨ ∃ v, j.field key = some v ∧ convert v = some a := by
  cases j with
  | object fields =>
      rw [value] at h
      cases hlookup : fields.lookup key with
      | none =>
          rw [hlookup] at h
          exact .inl ⟨hlookup, (Option.some.inj h).symm⟩
      | some v =>
          rw [hlookup] at h
          exact .inr ⟨v, hlookup, h⟩
  | _ => cases h

/-- What `set` leaves of an object; that it is one is told by any of its fields. -/
theorem field_set {j : Json} {key₀ : Str} (hobject : (j.field key₀).isSome) (key key' : Str) (v : Json) :
    (j.set key v).field key' = if key' = key then some v else j.field key' := by
  cases j with
  | object fields =>
      rw [set, field, field, List.lookup_cons]
      by_cases hkey : key' = key
      · simp [hkey]
      · rw [if_neg hkey, beq_eq_false_iff_ne.mpr hkey]
        dsimp only
        clear hobject
        induction fields with
        | nil => rfl
        | cons f fields ih =>
            rw [List.filter_cons, List.lookup_cons]
            by_cases hf : f.1 = key
            · rw [if_neg (by simpa using hf), ih, hf, beq_eq_false_iff_ne.mpr hkey]
            · rw [if_pos (by simpa using hf), List.lookup_cons, ih]
  | _ => cases hobject

/-- The elements of an array of strings are the strings, in order. -/
theorem getStrings_eq_some_iff {elements : List Json} {strings : List Str} :
    getStrings elements = some strings ↔ elements = strings.map str := by
  constructor
  · intro h
    induction elements generalizing strings with
    | nil =>
        cases h
        rfl
    | cons j elements ih =>
        rw [getStrings, List.mapM_cons] at h
        obtain ⟨s, hs, h⟩ := Option.bind_eq_some_iff.mp h
        obtain ⟨rest, hrest, h⟩ := Option.bind_eq_some_iff.mp h
        cases h
        rw [getString_eq_some_iff.mp hs, ih hrest, List.map_cons]
  · rintro rfl
    exact getStrings_map_str strings

end Json
end Protogate.Lib
