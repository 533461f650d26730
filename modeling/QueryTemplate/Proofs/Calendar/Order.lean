import Mathlib.Algebra.Order.Ring.Int
import Mathlib.Data.Nat.Cast.Order.Basic
import Mathlib.Order.Compare
import QueryTemplate.Calendar.Basic

/-!
# What dates and times are ordered by

Times of day and moments have an order where both of them have an offset from universal time or
neither has.  It is then the order of what they read: local time without an offset, and universal
time with one.
-/

namespace QueryTemplate

/-- Seconds since midnight and microseconds on top, of universal time if there is an offset. -/
def Time.reading (t : Time) : ℤ × ℕ :=
  match t.offset with
  | none => (t.seconds, t.microsecond)
  | some offset => t.universal offset

/-- Microseconds since the beginning of year 1, of universal time if there is an offset. -/
def Moment.reading (m : Moment) : ℤ :=
  match m.time.offset with
  | none => m.localMicroseconds
  | some offset => m.localMicroseconds - offset.microseconds

lemma compare_intCast (m n : ℕ) : compare m n = compare (m : ℤ) n := by
  rw [← cmp_eq_compare, ← cmp_eq_compare, (Nat.strictMono_cast (α := ℤ)).cmp_map_eq]

lemma Time.order?_eq (a b : Time) :
    a.order? b = if a.offset.isSome = b.offset.isSome then
      some ((compare a.reading.1 b.reading.1).then (compare a.reading.2 b.reading.2))
      else none := by
  rw [order?, reading, reading]
  cases a.offset <;> cases b.offset <;> simp [compare_intCast]

lemma Moment.order?_eq (a b : Moment) :
    a.order? b = if a.time.offset.isSome = b.time.offset.isSome then
      some (compare a.reading b.reading) else none := by
  rw [order?, reading, reading]
  cases a.time.offset <;> cases b.time.offset <;> simp [compare_intCast]

section Swap

open Std.OrientedCmp

lemma Date.order_swap (a b : Date) : b.order a = (a.order b).swap :=
  @eq_swap _ compare _ _ _

/-- Exchanged, two times of day have the opposite order. -/
lemma Time.order?_swap (a b : Time) : b.order? a = (a.order? b).map Ordering.swap := by
  rw [order?_eq, order?_eq, @eq_swap _ compare _ b.reading.1, @eq_swap _ compare _ b.reading.2,
    ← Ordering.swap_then]
  simp only [eq_comm (a := b.offset.isSome)]
  split_ifs <;> rfl

lemma Moment.order?_swap (a b : Moment) : b.order? a = (a.order? b).map Ordering.swap := by
  rw [order?_eq, order?_eq, @eq_swap _ compare _ b.reading]
  simp only [eq_comm (a := b.time.offset.isSome)]
  split_ifs <;> rfl

end Swap

/-- Two times of day are equal where they read the same. -/
lemma Time.order?_eq_eq {a b : Time} : a.order? b = some .eq ↔
    a.offset.isSome = b.offset.isSome ∧ a.reading = b.reading := by
  rw [order?_eq]
  split_ifs with h
  · simp [h, Ordering.then_eq_eq, Prod.ext_iff]
  · simp [h]

/-- Two moments are equal where they read the same. -/
lemma Moment.order?_eq_eq {a b : Moment} : a.order? b = some .eq ↔
    a.time.offset.isSome = b.time.offset.isSome ∧ a.reading = b.reading := by
  rw [order?_eq]
  split_ifs with h
  · simp [h]
  · simp [h]

end QueryTemplate
