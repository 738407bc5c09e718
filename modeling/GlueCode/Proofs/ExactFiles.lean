import GlueCode.Proofs.FileTexts
/-! # Exact contents

An output is compared with its file as texts are read, with all line endings unified, and is written
as it stands. So a close may leave a file that holds other bytes than those of the output, and may
report a file as written that held the very bytes before. Both come from carriage returns alone: a
close is exact just when the file's text reads as the output's text only if it is that text. -/
namespace GlueCode

theorem Text.toUTF8_of_fromUTF8? {bytes : ByteArray} {s : String}
    (h : String.fromUTF8? bytes = some s) : bytes = s.toUTF8 := by
  rw [String.fromUTF8?] at h
  split at h
  · obtain rfl := Option.some.inj h
    rfl
  · cases h

namespace Disk

variable {d : Disk} {p : Path}

theorem text?_eq_some_iff {old : String} : d.text? p = some old ↔ d.read p = .ok old.toUTF8 := by
  rw [text?]
  cases hread : d.read p with
  | error e => simp
  | ok bytes =>
    constructor
    · intro h
      rw [Text.toUTF8_of_fromUTF8? h]
    · intro h
      obtain rfl := Except.ok.inj h
      exact Text.fromUTF8?_toUTF8 old

end Disk

namespace Output

variable {d : Disk} {o : Output}

def Holds (o : Output) (d : Disk) : Prop := d.read o.path = .ok o.text.toUTF8

/-- The old text of the file, if any, reads as the output's text only if it is that text, and then
it does. -/
def Comparable (o : Output) (d : Disk) : Prop :=
  ∀ old, d.text? o.path = some old →
    (Text.unifyNewlines old.toList = o.text.toList ↔ old = o.text)

theorem holds_iff : o.Holds d ↔ d.text? o.path = some o.text := Disk.text?_eq_some_iff.symm

theorem comparable_iff : o.Comparable d ↔ (o.Matches d ↔ o.Holds d) := by
  rw [holds_iff, Comparable, Matches]
  cases hold : d.text? o.path with
  | none => simp
  | some old => simp

/-- A close that nothing is refused to writes the file unless it reads as the output's text; it is
exact just when the old text is comparable. Other files stay as they are, and closing again does
nothing. -/
theorem close_exact_iff {b : Bool} (hopen : o.finished = false)
    (hb : (o.close d).written = .ok b) (hfine : ∀ r ∈ (o.close d).log, ¬r.IsFailure) :
    (b = true ↔ ¬o.Matches d) ∧
      (o.close d).disk.read o.path = (if b then .ok o.text.toUTF8 else d.read o.path) ∧
      (o.Holds (o.close d).disk ∧ (b = true ↔ ¬o.Holds d) ↔ o.Comparable d) ∧
      (∀ loc ≠ d.target o.path, ∀ bytes,
        (o.close d).disk.get? loc = some (.file bytes) ↔ d.get? loc = some (.file bytes)) ∧
      ∀ later, (o.closed.close later).disk = later ∧
        (o.closed.close later).written = .ok false := by
  rw [comparable_iff]
  rcases close_cases hopen hb hfine with ⟨rfl, hmatches, hdisk⟩ | ⟨rfl, hstale, hwritten⟩
  · refine ⟨by simpa using hmatches, by simp [hdisk], ?_, by simp [hdisk], fun _ => ⟨rfl, rfl⟩⟩
    rw [hdisk]
    by_cases hholds : o.Holds d
    · simp [hholds, hmatches]
    · simp [hholds, hmatches]
  · refine ⟨by simpa using hstale, by simpa using hwritten.read, ?_,
      fun loc hne bytes => hwritten.file_iff hne, fun _ => ⟨rfl, rfl⟩⟩
    have hafter : o.Holds (o.close d).disk := hwritten.read
    by_cases hholds : o.Holds d
    · simp [hafter, hholds, hstale]
    · simp [hafter, hholds, hstale]

def oneFile (text : String) : Disk :=
  (Disk.blank ["home"]).put ["home", "notes"] (.file text.toUTF8)

def deepOutput : Output := { path := .ofString "new/deep/notes", text := "a\r\n" }

theorem deep_file_written :
    (deepOutput.close (oneFile "a\n")).written = .ok true ∧
      deepOutput.Holds (deepOutput.close (oneFile "a\n")).disk ∧ ¬deepOutput.Holds (oneFile "a\n") ∧
      (deepOutput.close (oneFile "a\n")).disk.get? ["home", "notes"] =
        some (.file "a\n".toUTF8) := by
  have hb : (deepOutput.close (oneFile "a\n")).written = .ok true := by decide +kernel
  have hfine : ∀ r ∈ (deepOutput.close (oneFile "a\n")).log, ¬r.IsFailure := by decide +kernel
  have hnone : (oneFile "a\n").text? deepOutput.path = none := by decide +kernel
  have hcomparable : deepOutput.Comparable (oneFile "a\n") := by simp [Comparable, hnone]
  obtain ⟨-, -, hexact, hothers, -⟩ := close_exact_iff rfl hb hfine
  obtain ⟨hholds, hchanged⟩ := hexact.2 hcomparable
  exact ⟨hb, hholds, hchanged.1 rfl, (hothers _ (by decide +kernel) _).2 rfl⟩

def notesOutput (text : String) : Output := { path := .ofString "notes", text }

/-- Nothing is refused, and yet a file keeps carriage returns that the output does not have; and a
file that holds the output's bytes already is reported as written, because they have some. -/
theorem returns_not_compared :
    (((notesOutput "a\n").close (oneFile "a\r\n")).written = .ok false ∧
        (∀ r ∈ ((notesOutput "a\n").close (oneFile "a\r\n")).log, ¬r.IsFailure) ∧
        ¬(notesOutput "a\n").Holds (oneFile "a\r\n") ∧
        ¬(notesOutput "a\n").Holds ((notesOutput "a\n").close (oneFile "a\r\n")).disk) ∧
      ((notesOutput "a\r\n").close (oneFile "a\r\n")).written = .ok true ∧
        (∀ r ∈ ((notesOutput "a\r\n").close (oneFile "a\r\n")).log, ¬r.IsFailure) ∧
        (notesOutput "a\r\n").Holds (oneFile "a\r\n") := by
  simp only [holds_iff]
  decide +kernel

end Output

end GlueCode
