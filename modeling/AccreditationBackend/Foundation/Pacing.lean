import Mathlib.Data.Int.Order.Basic

/-! Events that a threshold slows down: below it they come freely, from it on each waits a delay. -/

set_option autoImplicit false

namespace AccreditationBackend.Foundation

/-- The instants of the events, the latest first. -/
inductive Paced (threshold : Nat) (delay : Int) : List Int → Prop where
  | nil : Paced threshold delay []
  | cons {t : Int} {past : List Int} (paced : Paced threshold delay past)
      (waits : threshold ≤ past.length → ∀ last ∈ past.head?, last + delay ≤ t) :
      Paced threshold delay (t :: past)

variable {threshold : Nat} {delay lo hi : Int} {past : List Int}

/-- The events past the threshold take a delay each. -/
theorem Paced.spread (paced : Paced threshold delay past) (positive : 0 < threshold) (nonneg : 0 ≤ delay)
    (since : ∀ t ∈ past, lo ≤ t) {last : Int} (latest : past.head? = some last) :
    ((past.length : Int) - threshold) * delay ≤ last - lo := by
  induction paced generalizing last with
  | nil => cases latest
  | @cons t past paced waits ih =>
      obtain rfl : t = last := by simpa using latest
      have after : lo ≤ t := since t List.mem_cons_self
      rw [List.length_cons, Int.natCast_succ]
      by_cases full : threshold ≤ past.length
      -- The event before this one is past the threshold as well, or is the last of the free ones.
      · cases before : past.head? with
        | none =>
            rw [List.head?_eq_none_iff] at before
            subst before
            simp at full
            omega
        | some previous =>
            have waited := waits full previous (by rw [before]; rfl)
            have bound := ih (fun t member => since t (List.mem_cons_of_mem _ member)) before
            have more : (past.length : Int) + 1 - threshold = (past.length - threshold) + 1 := by omega
            rw [more, Int.add_mul, Int.one_mul]
            omega
      · have free : (past.length : Int) + 1 - threshold ≤ 0 := by omega
        exact Int.le_trans (Int.mul_nonpos_of_nonpos_of_nonneg free nonneg) (by omega)

/-- At most the threshold, and one more for every delay that fits into the period. -/
theorem Paced.length_le (paced : Paced threshold delay past) (positive : 0 < threshold)
    (waits : 0 < delay) (since : ∀ t ∈ past, lo ≤ t) (upto : ∀ t ∈ past, t ≤ hi)
    (period : lo ≤ hi) :
    (past.length : Int) ≤ threshold + (hi - lo) / delay := by
  cases latest : past.head? with
  | none =>
      rw [List.head?_eq_none_iff] at latest
      subst latest
      have whole : 0 ≤ (hi - lo) / delay := Int.ediv_nonneg (by omega) (Int.le_of_lt waits)
      simp only [List.length_nil]
      omega
  | some last =>
      have bound := paced.spread positive (Int.le_of_lt waits) since latest
      have member : last ∈ past := List.mem_of_mem_head? (by rw [latest]; rfl)
      have fits : ((past.length : Int) - threshold) ≤ (hi - lo) / delay :=
        Int.le_ediv_of_mul_le waits (Int.le_trans bound (by have := upto last member; omega))
      omega

end AccreditationBackend.Foundation
