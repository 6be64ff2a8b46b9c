/-
# Theory.Oneshot -- a channel that carries one value

One sender, one receiver, one value.  Sending consumes the sender; a value whose
receiver is gone comes back to the sender's side, and a value nobody will receive
is given up with the receiver.  Both come back as results here, because what they
own has to be released by whoever drops them.
-/
namespace RustSsh.Theory

set_option autoImplicit false

structure Oneshot (α : Type) where
  value : Option α
  sender : Bool
  receiver : Bool
  deriving DecidableEq, Repr

namespace Oneshot

variable {α : Type}

/-- Both halves exist, nothing was sent. -/
def channel : Oneshot α := ⟨none, true, true⟩

/-- Both halves are gone (or were never made). -/
def closed : Oneshot α := ⟨none, false, false⟩

/-- Send; the second component is the value when there is no receiver to take it. -/
def send (o : Oneshot α) (v : α) : Oneshot α × Option α :=
  if o.receiver then (⟨some v, false, true⟩, none) else (⟨o.value, false, false⟩, some v)

def dropSender (o : Oneshot α) : Oneshot α := { o with sender := false }

/-- Drop the receiver; a value it had not taken is dropped with it. -/
def dropReceiver (o : Oneshot α) : Oneshot α × Option α := (⟨none, o.sender, false⟩, o.value)

inductive Poll (α : Type) where
  | pending
  | ready (v : α)
  | closed

/-- What the receiver sees when it is polled. -/
def poll (o : Oneshot α) : Poll α :=
  match o.value with
  | some v => .ready v
  | none => if o.sender then .pending else .closed

@[simp] theorem channel_value : (channel : Oneshot α).value = none := rfl
@[simp] theorem channel_sender : (channel : Oneshot α).sender = true := rfl
@[simp] theorem channel_receiver : (channel : Oneshot α).receiver = true := rfl
@[simp] theorem closed_value : (closed : Oneshot α).value = none := rfl
@[simp] theorem closed_sender : (closed : Oneshot α).sender = false := rfl
@[simp] theorem closed_receiver : (closed : Oneshot α).receiver = false := rfl
@[simp] theorem dropSender_value (o : Oneshot α) : o.dropSender.value = o.value := rfl
@[simp] theorem dropSender_sender (o : Oneshot α) : o.dropSender.sender = false := rfl
@[simp] theorem dropSender_receiver (o : Oneshot α) : o.dropSender.receiver = o.receiver := rfl
@[simp] theorem dropReceiver_value (o : Oneshot α) : o.dropReceiver.1.value = none := rfl
@[simp] theorem dropReceiver_sender (o : Oneshot α) : o.dropReceiver.1.sender = o.sender := rfl
@[simp] theorem dropReceiver_receiver (o : Oneshot α) : o.dropReceiver.1.receiver = false := rfl
@[simp] theorem dropReceiver_dropped (o : Oneshot α) : o.dropReceiver.2 = o.value := rfl

@[simp] theorem send_sender (o : Oneshot α) (v : α) : (o.send v).1.sender = false := by
  unfold send
  split <;> rfl

@[simp] theorem send_receiver (o : Oneshot α) (v : α) : (o.send v).1.receiver = o.receiver := by
  unfold send
  split
  · rename_i live
    exact live.symm
  · rename_i gone
    exact (Bool.eq_false_iff.mpr gone).symm

theorem send_value (o : Oneshot α) (v : α) :
    (o.send v).1.value = if o.receiver then some v else o.value := by
  unfold send
  split <;> rfl

theorem send_returned (o : Oneshot α) (v : α) :
    (o.send v).2 = if o.receiver then none else some v := by
  unfold send
  split <;> rfl

end Oneshot

end RustSsh.Theory
