import Trillionnium.Data.Except

/-!
Logs that consist of lines. A complete line ends in a line feed; a log that was cut off ends in a
line that misses it.
-/

namespace Log

abbrev Bytes := List UInt8

def readUntil : Nat → Bytes → Bytes × Bytes
  | 0, input => ([], input)
  | _ + 1, [] => ([], [])
  | limit + 1, b :: input =>
    if b = 10 then
      ([10], input)
    else
      let (line, rest) := readUntil limit input
      (b :: line, rest)

def frame (line : Bytes) : Bytes := line ++ [10]

def frames (lines : List Bytes) : Bytes := lines.flatMap frame

@[simp]
theorem frames_nil : frames [] = [] := rfl

@[simp]
theorem frames_cons : frames (line :: lines) = line ++ 10 :: frames lines := by
  simp [frames, frame]

@[simp]
theorem frames_append : frames (lines ++ lines') = frames lines ++ frames lines' := by
  simp [frames]

@[simp]
theorem length_frame : (frame line).length = line.length + 1 := by
  simp [frame]

@[simp]
theorem frame_ne_nil : frame line ≠ [] := by
  simp [frame]

@[simp]
theorem getLast?_frame : (frame line).getLast? = some 10 := by
  simp [frame]

@[simp]
theorem dropLast_frame : (frame line).dropLast = line := by
  simp [frame]

theorem length_le_frames (lines : List Bytes) : lines.length ≤ (frames lines).length := by
  induction lines with
  | nil => simp
  | cons line lines ih =>
    rw [frames_cons]
    simp only [List.length_cons, List.length_append]
    omega

theorem readUntil_frame (hline : 10 ∉ line) (hlimit : line.length < limit) :
    readUntil limit (line ++ 10 :: rest) = (frame line, rest) := by
  induction line generalizing limit with
  | nil =>
    cases limit with
    | zero => simp at hlimit
    | succ limit => simp [readUntil, frame]
  | cons b line ih =>
    simp only [List.mem_cons, not_or] at hline
    cases limit with
    | zero => simp at hlimit
    | succ limit =>
      rw [List.cons_append, readUntil, if_neg (Ne.symm hline.1)]
      rw [ih hline.2 (by simpa using hlimit)]
      rfl

theorem readUntil_tail (htail : 10 ∉ tail) (hlimit : tail.length ≤ limit) :
    readUntil limit tail = (tail, []) := by
  induction tail generalizing limit with
  | nil => cases limit <;> rfl
  | cons b tail ih =>
    simp only [List.mem_cons, not_or] at htail
    cases limit with
    | zero => simp at hlimit
    | succ limit =>
      rw [readUntil, if_neg (Ne.symm htail.1)]
      rw [ih htail.2 (by simpa using hlimit)]

section WhileLet

variable {ε α σ : Type}

def whileLet (read : Bytes → Except ε (Option α × Bytes)) (body : σ → α → Except ε (ForInStep σ)) :
    Nat → Bytes → σ → Except ε σ
  | 0, _, s => .ok s
  | fuel + 1, input, s => do
    match ← read input with
    | (none, _) => return s
    | (some x, rest) =>
      match ← body s x with
      | .done s => return s
      | .yield s => whileLet read body fuel rest s

variable {read : Bytes → Except ε (Option α × Bytes)} {body : σ → α → Except ε (ForInStep σ)}

theorem whileLet_none {input : Bytes} (h : read input = .ok (none, rest)) :
    whileLet read body (fuel + 1) input s = .ok s := by
  rw [whileLet, h]
  rfl

theorem whileLet_some {input : Bytes} {x : α} (h : read input = .ok (some x, rest)) :
    whileLet read body (fuel + 1) input s
      =
    (body s x >>= fun
      | .done s => .ok s
      | .yield s => whileLet read body fuel rest s) := by
  rw [whileLet, h]
  simp only [Except.ok_bind]
  cases body s x with
  | error e => rfl
  | ok r =>
    cases r with
    | done s => rfl
    | yield s => rfl

def ReadsLine (read : Bytes → Except ε (Option α × Bytes)) (item : Bytes → α) (line : Bytes) : Prop :=
  ∀ rest, read (line ++ 10 :: rest) = .ok (some (item line), rest)

theorem whileLet_frames (body : σ → α → Except ε (ForInStep σ)) (step : σ → Bytes → Except ε σ)
    {lines : List Bytes} (hread : ∀ line ∈ lines, ReadsLine read item line)
    (hbody : ∀ s line, line ∈ lines → body s (item line) = (step s line).map .yield) (tail : Bytes)
    (fuel : Nat) (s : σ) :
    whileLet read body (lines.length + fuel) (frames lines ++ tail) s
      =
    (lines.foldlM step s >>= whileLet read body fuel tail) := by
  induction lines generalizing s with
  | nil => simp
  | cons line lines ih =>
    have hlen : (line :: lines).length + fuel = (lines.length + fuel) + 1 := by
      simp only [List.length_cons]
      omega
    rw [hlen, frames_cons]
    simp only [List.append_assoc, List.cons_append]
    rw [whileLet_some (hread line (by simp) _)]
    rw [hbody s line (by simp), List.foldlM_cons]
    cases step s line with
    | error e => rfl
    | ok s' =>
      simp only [Except.map, Except.ok_bind]
      exact ih (fun l hl => hread l (by simp [hl])) (fun s l hl => hbody s l (by simp [hl])) s'

end WhileLet

end Log
