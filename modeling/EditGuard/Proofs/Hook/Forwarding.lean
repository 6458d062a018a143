import EditGuard.Hook.Outcome
import Mathlib.Data.List.Basic

/-! # What an outcome writes

An outcome that lets the edit pass puts the payload on standard output, behind the advice if it has
any. What becomes of the payload is decided by the advice alone: standard output gets all of it or
nothing, as far as it takes what is written.
-/

namespace EditGuard.Hook

open Text

/-! ## Outputs -/

namespace Output

def TakesAll (o : Output) : Prop :=
  match o.room with
  | none => True
  | some (.bytes _) => False
  | some (.writes ahead) => ∀ refusal ∈ ahead, refusal = none

theorem TakesAll.write {o : Output} (h : o.TakesAll) (bytes : Bytes) :
    ∃ o', o.write bytes = (o', none) ∧ o'.written = o.written ++ bytes ∧ o'.TakesAll := by
  obtain ⟨written, room⟩ := o
  cases room with
  | none => exact ⟨_, rfl, rfl, trivial⟩
  | some room =>
    cases room with
    | bytes n => cases h
    | writes ahead =>
      cases ahead with
      | nil => exact ⟨_, rfl, rfl, h⟩
      | cons refusal ahead =>
        obtain rfl : refusal = none := h refusal List.mem_cons_self
        exact ⟨_, rfl, rfl, fun later hl => h later (List.mem_cons_of_mem _ hl)⟩

theorem TakesAll.writeLine {o : Output} (h : o.TakesAll) (line : String) :
    ∃ o', o.writeLine line = (o', none) ∧ o'.written = o.written ++ toUtf8 (line ++ "\n") ∧
      o'.TakesAll :=
  h.write _

theorem flush_written (o : Output) : o.flush.1.written = o.written := by
  obtain ⟨written, room⟩ := o
  cases room with
  | none => exact List.append_nil written
  | some room =>
    cases room with
    | bytes n => simp [flush, write]
    | writes ahead =>
      cases ahead with
      | nil => exact List.append_nil written
      | cons refusal ahead => cases refusal <;> simp [flush, write]

end Output

/-! ## Payloads -/

def passedOn (bytes : Bytes) : Bytes := if bytes.all isBlankByte then toUtf8 "\x7b\x7d" else bytes

theorem forwarded_ofBytes (bytes : Bytes) :
    (Payload.ofBytes bytes).forwarded = passedOn bytes := rfl

theorem passedOn_of_blank {bytes : Bytes} (h : bytes.all isBlankByte = true) :
    passedOn bytes = toUtf8 "\x7b\x7d" := if_pos h

theorem passedOn_of_not_blank {bytes : Bytes} (h : ¬ bytes.all isBlankByte = true) :
    passedOn bytes = bytes := if_neg h

theorem passedOn_braces : passedOn (toUtf8 "\x7b\x7d") = toUtf8 "\x7b\x7d" := by decide +kernel

theorem passedOn_passedOn (bytes : Bytes) : passedOn (passedOn bytes) = passedOn bytes := by
  by_cases h : bytes.all isBlankByte = true
  · rw [passedOn_of_blank h, passedOn_braces]
  · rw [passedOn_of_not_blank h, passedOn_of_not_blank h]

theorem passedOn_ne_nil (bytes : Bytes) : passedOn bytes ≠ [] := by
  by_cases h : bytes.all isBlankByte = true
  · rw [passedOn_of_blank h]
    decide +kernel
  · rw [passedOn_of_not_blank h]
    intro hnil
    rw [hnil] at h
    exact h rfl

/-- Of the bytes that are blank, a form feed alone is no white space to the reader. -/
theorem eq_formFeed {b : UInt8} (hblank : isBlankByte b = true) (hspace : Json.isSpace b = false) :
    b = 12 := by
  simp only [isBlankByte, Bool.or_eq_true, decide_eq_true_eq] at hblank
  simp only [Json.isSpace, Bool.or_eq_false_iff, decide_eq_false_iff_not] at hspace
  tauto

/-- A blank payload holds no value. -/
theorem read_of_blank {bytes : Bytes} (h : bytes.all isBlankByte = true) :
    ∃ error, Json.read bytes = .error error := by
  have hvalue : ∃ error, Json.value Json.depthLimit bytes = .error error := by
    cases hrest : Json.skipSpace bytes with
    | nil => exact ⟨⟨.endInValue, 0 - 1⟩, by rw [Json.value, hrest]; rfl⟩
    | cons b rest =>
      have hmem : b ∈ bytes := by
        have hb : b ∈ Json.skipSpace bytes := hrest ▸ List.mem_cons_self
        exact (List.dropWhile_sublist _).subset hb
      have hspace : Json.isSpace b = false := by
        have hhead := List.head?_dropWhile_not Json.isSpace bytes
        rw [show bytes.dropWhile Json.isSpace = b :: rest from hrest] at hhead
        exact hhead
      obtain rfl := eq_formFeed (List.all_eq_true.1 h b hmem) hspace
      exact ⟨_, by rw [Json.value, hrest]; rfl⟩
  obtain ⟨error, herror⟩ := hvalue
  exact ⟨error, by rw [Json.read, herror]; rfl⟩

theorem target?_of_blank {bytes : Bytes} (h : bytes.all isBlankByte = true) :
    (Payload.ofBytes bytes).target? = none := by
  obtain ⟨error, herror⟩ := read_of_blank h
  simp only [Payload.target?, Payload.value?, Payload.ofBytes, herror]
  rfl

theorem target?_braces : (Payload.ofBytes (toUtf8 "\x7b\x7d")).target? = none := by decide +kernel

/-! ## Outcomes -/

namespace Outcome

variable {o : Outcome} {p : Payload} {stdout stderr : Output}

/-- The outcome gets as far as to forward its payload, given the output for its message. -/
def Forwards (o : Outcome) (stderr : Output) : Prop :=
  match o with
  | pass => True
  | advise message => (stderr.writeLine message).2 = none
  | deny _ => False

def spoken : Outcome → Bytes
  | pass => []
  | advise message => toUtf8 (message ++ "\n")
  | deny message => toUtf8 (message ++ "\n")

theorem exitCode_eq_zero_or_one (o : Outcome) : o.exitCode = 0 ∨ o.exitCode = 1 := by
  cases o with
  | pass => exact Or.inl rfl
  | advise message => exact Or.inl rfl
  | deny message => exact Or.inr rfl

theorem exitCode_eq_one_iff : o.exitCode = 1 ↔ ∃ message, o = deny message := by
  cases o with
  | pass => simp [exitCode]
  | advise message => simp [exitCode]
  | deny message => simp [exitCode, denyExitCode]

theorem Forwards.exitCode_eq_zero (h : o.Forwards stderr) : o.exitCode = 0 := by
  cases o with
  | pass => rfl
  | advise message => rfl
  | deny message => cases h

/-- An edit that passes is held up by its own advice only. -/
theorem not_forwards_iff (h : o.exitCode = 0) :
    ¬ o.Forwards stderr ↔ ∃ message, o = advise message ∧ (stderr.writeLine message).2 ≠ none := by
  cases o with
  | pass => simp [Forwards]
  | advise message => simp [Forwards]
  | deny message => cases h

theorem forwards_of_takesAll (h : o.exitCode = 0) (hstderr : stderr.TakesAll) :
    o.Forwards stderr := by
  cases o with
  | pass => trivial
  | advise message =>
    obtain ⟨stderr', hwrite, -⟩ := hstderr.writeLine message
    rw [Forwards, hwrite]
  | deny message => cases h

theorem settle_written (stdout stderr : Output) :
    (settle stdout stderr).stdout.written = stdout.written ∧
      (settle stdout stderr).stderr.written = stderr.written := by
  have hflush := stdout.flush_written
  unfold settle
  cases hstdout : stdout.flush with
  | mk stdout' fault =>
    rw [hstdout] at hflush
    cases fault with
    | none => exact ⟨hflush, stderr.flush_written⟩
    | some fault => exact ⟨hflush, rfl⟩

theorem forward_written (hstdout : stdout.TakesAll) (p : Payload) (stderr : Output) :
    (forward p stdout stderr).stdout.written = stdout.written ++ p.forwarded ∧
      (forward p stdout stderr).stderr.written = stderr.written := by
  obtain ⟨stdout', hwrite, hwritten, -⟩ := hstdout.write p.forwarded
  have hsettle := settle_written stdout' stderr
  simp only [forward, hwrite]
  exact ⟨hsettle.1.trans hwritten, hsettle.2⟩

theorem emit_of_forwards (h : o.Forwards stderr) (hstdout : stdout.TakesAll) (p : Payload) :
    (o.emit p stdout stderr).stdout.written = stdout.written ++ p.forwarded := by
  cases o with
  | pass => exact (forward_written hstdout p stderr).1
  | advise message =>
    cases hwrite : stderr.writeLine message with
    | mk stderr' fault =>
      obtain rfl : fault = none := by rw [Forwards, hwrite] at h; exact h
      simp only [emit, hwrite]
      exact (forward_written hstdout p stderr').1
  | deny message => cases h

/-- What is not forwarded leaves standard output alone, whatever becomes of the message. -/
theorem emit_of_not_forwards (h : ¬ o.Forwards stderr) (p : Payload) (stdout : Output) :
    (o.emit p stdout stderr).stdout.written = stdout.written := by
  cases o with
  | pass => exact absurd trivial h
  | advise message =>
    cases hwrite : stderr.writeLine message with
    | mk stderr' fault =>
      cases fault with
      | none => exact absurd (by rw [Forwards, hwrite]) h
      | some fault => simp only [emit, hwrite]
  | deny message =>
    cases hwrite : stderr.writeLine message with
    | mk stderr' fault =>
      simp only [emit, hwrite]
      cases fault with
      | none => exact (settle_written stdout stderr').1
      | some fault => rfl

theorem emit_spoken (o : Outcome) (hstdout : stdout.TakesAll) (hstderr : stderr.TakesAll)
    (p : Payload) : (o.emit p stdout stderr).stderr.written = stderr.written ++ o.spoken := by
  cases o with
  | pass => exact (forward_written hstdout p stderr).2.trans (List.append_nil _).symm
  | advise message =>
    obtain ⟨stderr', hwrite, hwritten, -⟩ := hstderr.writeLine message
    simp only [emit, hwrite]
    exact (forward_written hstdout p stderr').2.trans hwritten
  | deny message =>
    obtain ⟨stderr', hwrite, hwritten, -⟩ := hstderr.writeLine message
    simp only [emit, hwrite]
    exact (settle_written stdout stderr').2.trans hwritten

/-! An output that takes all goes on doing so. -/

theorem takesAll_settle (stdout : Output) (hstderr : stderr.TakesAll) :
    (settle stdout stderr).stderr.TakesAll := by
  obtain ⟨stderr', hflush, -, htakes⟩ := hstderr.write []
  unfold settle
  split
  · rw [Output.flush, hflush]
    exact htakes
  · exact hstderr

theorem takesAll_forward (p : Payload) (stdout : Output) (hstderr : stderr.TakesAll) :
    (forward p stdout stderr).stderr.TakesAll := by
  unfold forward
  split
  · exact takesAll_settle _ hstderr
  · exact hstderr

theorem takesAll_emit (o : Outcome) (p : Payload) (stdout : Output) (hstderr : stderr.TakesAll) :
    (o.emit p stdout stderr).stderr.TakesAll := by
  cases o with
  | pass => exact takesAll_forward p stdout hstderr
  | advise message =>
    obtain ⟨stderr', hwrite, -, htakes⟩ := hstderr.writeLine message
    simp only [emit, hwrite]
    exact takesAll_forward p stdout htakes
  | deny message =>
    obtain ⟨stderr', hwrite, -, htakes⟩ := hstderr.writeLine message
    simp only [emit, hwrite]
    exact takesAll_settle stdout htakes

end Outcome

end EditGuard.Hook
