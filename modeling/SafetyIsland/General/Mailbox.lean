import Mathlib.Logic.Basic

/-! A one-way channel between two parties. Messages leave it in the order
they were sent; each arrives, or is lost on the way. -/

universe u

/-- The messages on their way, the oldest first, and the last one that left
with whether it arrived. -/
structure Mailbox (Message : Type u) where
  inFlight : List Message := []
  left : Option (Message × Bool) := none
  deriving DecidableEq

namespace Mailbox
variable {Message : Type u}

def send (m : Message) (b : Mailbox Message) : Mailbox Message :=
  { b with inFlight := b.inFlight ++ [m] }

def take (arrives : Bool) (b : Mailbox Message) : Mailbox Message :=
  match b.inFlight with
  | [] => b
  | m :: rest => { inFlight := rest, left := some (m, arrives) }

/-- The last message sent, if any was. -/
def sent (b : Mailbox Message) : Option Message :=
  b.inFlight.getLast?.or (b.left.map Prod.fst)

/-- Nothing is on its way, and the last message that left arrived. -/
def Settled (b : Mailbox Message) : Prop := b.inFlight = [] ∧ ∀ last ∈ b.left, last.2 = true

instance Settled.decidable (b : Mailbox Message) : Decidable b.Settled := by
  unfold Settled
  infer_instance

@[simp] theorem sent_empty : ({} : Mailbox Message).sent = none := rfl

@[simp] theorem sent_send (m : Message) (b : Mailbox Message) : (b.send m).sent = some m := by
  simp [sent, send]

@[simp] theorem left_send (m : Message) (b : Mailbox Message) : (b.send m).left = b.left := rfl

/-- What was sent last does not depend on what has left. -/
@[simp] theorem sent_take (arrives : Bool) (b : Mailbox Message) :
    (b.take arrives).sent = b.sent := by
  obtain ⟨inFlight, left⟩ := b
  cases inFlight with
  | nil => rfl
  | cons m rest => cases h : rest.getLast? <;> simp [sent, take, List.getLast?_cons, h]

/-- The oldest message leaves, and whether it arrives is noted. -/
theorem left_take (arrives : Bool) (b : Mailbox Message) : (b.take arrives).left =
    match b.inFlight with
    | [] => b.left
    | m :: _ => some (m, arrives) := by
  unfold take
  cases b.inFlight <;> rfl

/-- A settled channel has delivered the last message sent. -/
theorem Settled.left_of_sent {b : Mailbox Message} (h : b.Settled) {m : Message}
    (hSent : b.sent = some m) : b.left = some (m, true) := by
  obtain ⟨hEmpty, hArrived⟩ := h
  rw [sent, hEmpty] at hSent
  obtain ⟨last, hLeft, rfl⟩ : ∃ last, b.left = some last ∧ last.1 = m := by simpa using hSent
  have hLast : last.2 = true := hArrived last hLeft
  rw [hLeft, ← hLast]

/-- The last message sent is on its way, was lost, or arrived last. -/
theorem cases_of_sent {b : Mailbox Message} {m : Message} (hSent : b.sent = some m) :
    m ∈ b.inFlight ∨ b.left = some (m, false) ∨ b.left = some (m, true) := by
  by_cases hEmpty : b.inFlight = []
  · rw [sent, hEmpty] at hSent
    obtain ⟨⟨first, arrives⟩, hLeft, rfl⟩ : ∃ x, b.left = some x ∧ x.1 = m := by simpa using hSent
    cases arrives with
    | true => exact .inr (.inr hLeft)
    | false => exact .inr (.inl hLeft)
  · refine .inl ?_
    rw [sent, List.getLast?_eq_some_getLast hEmpty] at hSent
    obtain rfl : b.inFlight.getLast hEmpty = m := by simpa using hSent
    exact List.getLast_mem hEmpty

/-- In a settled mailbox the message that arrived last is the one sent last. -/
theorem Settled.sent_of_left {b : Mailbox Message} (h : b.Settled) {m : Message}
    (hLeft : b.left = some (m, true)) : b.sent = some m := by
  simp [sent, h.1, hLeft]

end Mailbox
