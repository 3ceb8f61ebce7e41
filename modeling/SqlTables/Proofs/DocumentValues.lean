import SqlTables.Document.Value
import SqlTables.Proofs.Outcomes

/-!
# Comparing document values

Documents nest, so their equality is told part by part (`Value.eq_of_isEqual`).  What a given text
is read as can then be evaluated (`Value.eq_ok_of_isEqual`).
-/

set_option autoImplicit false

namespace SqlTables.Document.Value

/-- Whether two values are equal; doubles, bytes, times and collections that no JSON document has
are never found to be. -/
def isEqual : Value → Value → Bool
  | null, null => true
  | bool a, bool b => a == b
  | int a, int b => a == b
  | text a, text b => a == b
  | list as, list bs => items as bs
  | map es, map fs => entries es fs
  | _, _ => false
where
  /-- Whether two lists hold equal values one by one. -/
  items : List Value → List Value → Bool
  | [], [] => true
  | a :: as, b :: bs => isEqual a b && items as bs
  | _, _ => false
  /-- Whether two lists hold equal entries one by one. -/
  entries : List (Value × Value) → List (Value × Value) → Bool
  | [], [] => true
  | (k, v) :: es, (l, w) :: fs => isEqual k l && isEqual v w && entries es fs
  | _, _ => false

mutual

theorem eq_of_isEqual : ∀ a b : Value, isEqual a b = true → a = b
  | null, b, h => by
    cases b with
    | null => rfl
    | _ => cases h
  | bool _, b, h => by
    cases b with
    | bool _ => exact congrArg bool (beq_iff_eq.1 h)
    | _ => cases h
  | int _, b, h => by
    cases b with
    | int _ => exact congrArg int (beq_iff_eq.1 h)
    | _ => cases h
  | text _, b, h => by
    cases b with
    | text _ => exact congrArg text (beq_iff_eq.1 h)
    | _ => cases h
  | list as, b, h => by
    cases b with
    | list bs => exact congrArg list (eq_of_isEqual_items as bs h)
    | _ => cases h
  | map es, b, h => by
    cases b with
    | map fs => exact congrArg map (eq_of_isEqual_entries es fs h)
    | _ => cases h
  | float _, b, h | bytes _, b, h | date _, b, h | moment _, b, h | tuple _, b, h | set _, b, h
  | again _, b, h => by cases b <;> cases h

theorem eq_of_isEqual_items : ∀ as bs : List Value, isEqual.items as bs = true → as = bs
  | [], bs, h => by
    cases bs with
    | nil => rfl
    | cons b bs => cases h
  | a :: as, bs, h => by
    cases bs with
    | nil => cases h
    | cons b bs =>
      obtain ⟨hhead, htail⟩ := Bool.and_eq_true_iff.1 h
      rw [eq_of_isEqual a b hhead, eq_of_isEqual_items as bs htail]

theorem eq_of_isEqual_entries :
    ∀ es fs : List (Value × Value), isEqual.entries es fs = true → es = fs
  | [], fs, h => by
    cases fs with
    | nil => rfl
    | cons f fs => cases h
  | (k, v) :: es, fs, h => by
    cases fs with
    | nil => cases h
    | cons f fs =>
      obtain ⟨hhead, htail⟩ := Bool.and_eq_true_iff.1 h
      obtain ⟨hkey, hvalue⟩ := Bool.and_eq_true_iff.1 hhead
      rw [eq_of_isEqual k f.1 hkey, eq_of_isEqual v f.2 hvalue, eq_of_isEqual_entries es fs htail]

end

/-- What a reading gives, from the comparison of values. -/
theorem eq_ok_of_isEqual {ε : Type} {r : Except ε Value} {v : Value}
    (h : r.toOption.any (isEqual · v) = true) : r = .ok v := by
  obtain ⟨w, hw, hequal⟩ := (Option.any_eq_true _ _).1 h
  rw [Outcome.toOption_eq_some_iff.1 hw, eq_of_isEqual w v hequal]

end SqlTables.Document.Value
