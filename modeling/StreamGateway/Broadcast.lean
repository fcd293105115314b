import Mathlib.Algebra.BigOperators.Group.List.Basic
import Mathlib.Algebra.GroupWithZero.Nat
import Mathlib.Data.List.Infix

/-!
# Broadcast channels

A channel passes each value on to all its receivers, each at its own pace, and retains the last
values only. A receiver that has fallen behind them is told how many it has missed, and goes on
with the oldest that is left. It hears nothing of what was sent before it subscribed.
-/
namespace StreamGateway

/-- What a receiver is told. -/
inductive Reception (α : Type*)
  | value (a : α)
  | lagged (missed : ℕ)
  deriving DecidableEq, Repr

namespace Reception

variable {α : Type*}

def value? : Reception α → Option α
  | value a => some a
  | lagged _ => none

def missed : Reception α → ℕ
  | value _ => 0
  | lagged missed => missed

/-- The values, in the order in which they came. -/
def values (heard : List (Reception α)) : List α := heard.filterMap value?

/-- The number of values between them that did not come. -/
def misses (heard : List (Reception α)) : ℕ := (heard.map missed).sum

@[simp] theorem values_nil : values ([] : List (Reception α)) = [] := rfl

@[simp] theorem values_append (heard later : List (Reception α)) :
    values (heard ++ later) = values heard ++ values later := List.filterMap_append

@[simp] theorem values_value (a : α) : values [value a] = [a] := rfl

@[simp] theorem values_lagged (m : ℕ) : values [(lagged m : Reception α)] = [] := rfl

@[simp] theorem misses_nil : misses ([] : List (Reception α)) = 0 := rfl

@[simp] theorem misses_append (heard later : List (Reception α)) :
    misses (heard ++ later) = misses heard + misses later := by
  simp [misses]

@[simp] theorem misses_value (a : α) : misses [value a] = 0 := rfl

@[simp] theorem misses_lagged (m : ℕ) : misses [(lagged m : Reception α)] = m := by
  simp [misses, missed]

end Reception

open Reception

/-- A receiver: its position at the subscription, the next one, and what it has heard. -/
structure Receiver (α : Type*) where
  start : ℕ
  next : ℕ
  heard : List (Reception α)
  deriving DecidableEq, Repr

namespace Receiver

variable {α : Type*}

/-- A receiver of the values behind those that are sent so far. -/
def subscribe (sent : List α) : Receiver α := ⟨sent.length, sent.length, []⟩

/-- The position of the oldest value that is left. -/
def oldest (capacity : ℕ) (sent : List α) : ℕ := sent.length - capacity

/-- What the receiver would hear next, if there is anything to hear. -/
def upcoming (capacity : ℕ) (sent : List α) (r : Receiver α) : Option (Reception α) :=
  if r.next < oldest capacity sent then some (.lagged (oldest capacity sent - r.next))
  else sent[r.next]?.map .value

/-- The receiver has heard it. -/
def hear (r : Receiver α) (x : Reception α) : Receiver α :=
  { r with
    next := match x with
      | .value _ => r.next + 1
      | .lagged m => r.next + m
    heard := r.heard ++ [x] }

@[simp] theorem values_hear (r : Receiver α) (x : Reception α) :
    values (r.hear x).heard = values r.heard ++ x.value?.toList := by
  cases x <;> simp [hear, value?]

theorem misses_hear (r : Receiver α) (x : Reception α) :
    misses (r.hear x).heard = misses r.heard + x.missed := by
  cases x <;> simp [hear, missed]

/-! ## What a receiver has heard -/

/-- From its position at the subscription on, the receiver was told of each value that was sent:
the value itself, or that it was missed. -/
structure Follows (sent : List α) (r : Receiver α) : Prop where
  next_le : r.next ≤ sent.length
  accounted : r.next = r.start + (values r.heard).length + misses r.heard
  sublist : (values r.heard).Sublist ((sent.take r.next).drop r.start)

variable {sent : List α} {r : Receiver α}

theorem follows_subscribe (sent : List α) : (subscribe sent).Follows sent :=
  ⟨Nat.le_refl _, rfl, List.nil_sublist _⟩

theorem Follows.start_le (h : r.Follows sent) : r.start ≤ r.next := by
  have := h.accounted
  omega

/-- More may be sent. -/
theorem Follows.append (h : r.Follows sent) (later : List α) : r.Follows (sent ++ later) := by
  refine ⟨?_, h.accounted, ?_⟩
  · rw [List.length_append]
    exact Nat.le_add_right_of_le h.next_le
  · rw [List.take_append_of_le_length h.next_le]
    exact h.sublist

theorem Follows.hear {capacity : ℕ} {x : Reception α} (h : r.Follows sent)
    (hx : r.upcoming capacity sent = some x) : (r.hear x).Follows sent := by
  have hstart := h.start_le
  unfold upcoming at hx
  split at hx
  · rename_i hbehind
    obtain rfl := Option.some.inj hx
    have hle : r.next + (oldest capacity sent - r.next) ≤ sent.length := by
      unfold oldest at *
      omega
    refine ⟨hle, ?_, ?_⟩
    · have := h.accounted
      simp only [Receiver.hear, values_append, values_lagged, List.append_nil, misses_append,
        misses_lagged]
      omega
    · simp only [Receiver.hear, values_append, values_lagged, List.append_nil]
      exact h.sublist.trans (((List.take_prefix_take_left (by omega)).sublist).drop r.start)
  · obtain ⟨a, ha, rfl⟩ := Option.map_eq_some_iff.mp hx
    obtain ⟨hlt, rfl⟩ := List.getElem?_eq_some_iff.mp ha
    refine ⟨hlt, ?_, ?_⟩
    · have := h.accounted
      simp only [Receiver.hear, values_append, values_value, List.length_append,
        List.length_singleton, misses_append, misses_value]
      omega
    · simp only [Receiver.hear, values_append, values_value]
      rw [List.take_succ_eq_append_getElem hlt, List.drop_append_of_le_length (by simp; omega)]
      exact h.sublist.append (.refl _)

/-- A receiver that has missed nothing has heard all that was sent, from the subscription up to
its next position. -/
theorem Follows.values_eq (h : r.Follows sent) (hnone : misses r.heard = 0) :
    values r.heard = (sent.take r.next).drop r.start := by
  refine h.sublist.eq_of_length ?_
  have := h.accounted
  have := h.next_le
  rw [List.length_drop, List.length_take]
  omega

/-- What was sent since the subscription is what came, what was missed, and what is still to
come. -/
theorem Follows.conservation (h : r.Follows sent) :
    sent.length = r.start + (values r.heard).length + misses r.heard +
      (sent.length - r.next) := by
  have := h.accounted
  have := h.next_le
  omega

/-- Only a receiver that is further behind than the channel retains misses anything. -/
theorem upcoming_missed {capacity : ℕ} {x : Reception α}
    (hx : r.upcoming capacity sent = some x) (hclose : sent.length ≤ r.next + capacity) :
    x.missed = 0 := by
  unfold upcoming at hx
  rw [if_neg (by unfold oldest; omega)] at hx
  obtain ⟨a, _, rfl⟩ := Option.map_eq_some_iff.mp hx
  rfl

end Receiver

end StreamGateway
