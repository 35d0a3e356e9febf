import Mathlib

/-!
Chunks of several streams that share one budget of bytes. A chunk is delivered as far as the budget
goes, and nothing is delivered once it is used up.
-/

namespace Stream

variable {κ α : Type}

def total (chunks : List (κ × List α)) : Nat := (chunks.map fun chunk => chunk.2.length).sum

def content (p : κ → Bool) (chunks : List (κ × List α)) : List α :=
  (chunks.filter fun chunk => p chunk.1).flatMap Prod.snd

def piece (stream : κ) (bytes : List α) : List (κ × List α) :=
  if bytes.isEmpty then [] else [(stream, bytes)]

def deliver : Nat → List (κ × List α) → List (κ × List α)
  | _, [] => []
  | budget, (stream, bytes) :: chunks =>
    piece stream (bytes.take budget) ++ deliver (budget - bytes.length) chunks

def upToExcess : Nat → List (κ × List α) → List (κ × List α)
  | _, [] => []
  | budget, (stream, bytes) :: chunks =>
    if bytes.length > budget ∨ budget = 0 then
      [(stream, bytes)]
    else
      (stream, bytes) :: upToExcess (budget - bytes.length) chunks

@[simp]
theorem total_nil : total ([] : List (κ × List α)) = 0 := rfl

@[simp]
theorem total_cons {chunk : κ × List α} :
    total (chunk :: chunks) = chunk.2.length + total chunks := rfl

@[simp]
theorem total_append (chunks chunks' : List (κ × List α)) :
    total (chunks ++ chunks') = total chunks + total chunks' := by
  simp [total]

@[simp]
theorem total_piece (stream : κ) (bytes : List α) : total (piece stream bytes) = bytes.length := by
  unfold piece
  split
  next h => simp [List.isEmpty_iff.mp h]
  . rfl

@[simp]
theorem content_nil (p : κ → Bool) : content p ([] : List (κ × List α)) = [] := rfl

@[simp]
theorem content_append (p : κ → Bool) :
    content p (chunks ++ chunks') = content p chunks ++ content p chunks' := by
  simp [content]

theorem content_cons (p : κ → Bool) :
    content p ((stream, bytes) :: chunks)
      = (if p stream then bytes else []) ++ content p chunks := by
  unfold content
  rw [List.filter_cons]
  split
  . rfl
  . rfl

@[simp]
theorem content_piece (p : κ → Bool) :
    content p (piece stream bytes) = if p stream then bytes else [] := by
  unfold piece
  split
  next h => simp [List.isEmpty_iff.mp h]
  . rw [content_cons, content_nil, List.append_nil]

theorem deliver_cons (budget : Nat) (chunk : κ × List α) (chunks : List (κ × List α)) :
    deliver budget (chunk :: chunks)
      = piece chunk.1 (chunk.2.take budget) ++ deliver (budget - chunk.2.length) chunks := rfl

@[simp]
theorem deliver_zero : deliver 0 chunks = [] := by
  induction chunks with
  | nil => rfl
  | cons chunk chunks ih =>
    rw [deliver_cons, List.take_zero, Nat.zero_sub, ih]
    rfl

theorem deliver_append :
    deliver budget (chunks ++ chunks')
      = deliver budget chunks ++ deliver (budget - total chunks) chunks' := by
  induction chunks generalizing budget with
  | nil => rfl
  | cons chunk chunks ih =>
    rw [List.cons_append, deliver_cons, ih, deliver_cons, List.append_assoc, total_cons,
      Nat.sub_add_eq]

theorem deliver_concat :
    deliver budget (chunks ++ [(stream, bytes)])
      = deliver budget chunks ++ piece stream (bytes.take (budget - total chunks)) := by
  rw [deliver_append, deliver_cons]
  exact congrArg _ (List.append_nil _)

theorem total_deliver : total (deliver budget chunks) = min budget (total chunks) := by
  induction chunks generalizing budget with
  | nil => simp [deliver]
  | cons chunk chunks ih =>
    rw [deliver_cons, total_append, total_piece, ih, total_cons, List.length_take]
    omega

theorem length_deliver_le (budget : Nat) (chunks : List (κ × List α)) :
    (deliver budget chunks).length ≤ total (deliver budget chunks) := by
  induction chunks generalizing budget with
  | nil => exact Nat.le_refl 0
  | cons chunk chunks ih =>
    rw [deliver_cons, List.length_append, total_append, total_piece]
    apply Nat.add_le_add _ (ih _)
    unfold piece
    split
    . exact Nat.zero_le _
    next h => exact List.length_pos_iff.mpr (fun heq => h (List.isEmpty_iff.mpr heq))

theorem content_deliver_prefix (p : κ → Bool) (budget : Nat) (chunks : List (κ × List α)) :
    content p (deliver budget chunks) <+: content p (upToExcess budget chunks) := by
  induction chunks generalizing budget with
  | nil => exact List.prefix_rfl
  | cons chunk chunks ih =>
    rw [deliver_cons, content_append, content_piece]
    unfold upToExcess
    by_cases h : chunk.2.length > budget ∨ budget = 0
    . -- Behind an excess the budget is used up, so the cut chunk is the last one.
      have hzero : budget - chunk.2.length = 0 := by omega
      rw [if_pos h, hzero, deliver_zero, content_nil, List.append_nil, content_cons, content_nil,
        List.append_nil]
      split
      . exact List.take_prefix budget chunk.2
      . exact List.prefix_rfl
    . rw [if_neg h, List.take_of_length_le (by omega), content_cons]
      rw [List.prefix_append_right_inj]
      exact ih (budget - chunk.2.length)

theorem total_eq_content (p : κ → Bool) :
    total chunks = (content p chunks).length + (content (fun stream => !p stream) chunks).length := by
  induction chunks with
  | nil => rfl
  | cons chunk chunks ih =>
    rw [total_cons, content_cons, content_cons, ih]
    cases p chunk.1
    . simp
      omega
    . simp
      omega

end Stream
