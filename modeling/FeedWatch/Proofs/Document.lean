import FeedWatch.Document
import FeedWatch.Proofs.Disk.Replace
import FeedWatch.Proofs.Json.RoundTrip

/-!
# Documents are read back

A document is read as text in UTF-8 with plain line ends, and a written value is such a text.  Main
statements: a document that holds a written value has the value that its text denotes
(`Document.read_reread`), and with a plain value that is the value itself (`Document.read_written`).
-/

namespace FeedWatch

/-- A text without carriage returns has plain line ends already. -/
lemma plainLineEnds_of_notMem {cs : List Char} (h : '\r' ∉ cs) : plainLineEnds cs = cs := by
  induction cs with
  | nil => rfl
  | cons c cs ih =>
    rw [List.mem_cons, not_or] at h
    rw [plainLineEnds, ih h.2]
    · exact fun _ e _ => h.1 e.symm
    · exact fun e => h.1 e.symm

lemma fileText?_toUTF8 {s : String} (h : '\r' ∉ s.toList) : fileText? s.toUTF8 = some s := by
  have hread : String.fromUTF8? s.toUTF8 = some s := dif_pos s.isValidUTF8
  rw [fileText?, hread, Option.map_some, plainLineEnds_of_notMem h, String.ofList_toList]

namespace Document

/-- The content that is written of a value is a document of the value that its text denotes. -/
lemma ofContent_reread {v : Json} (hv : v.IsFit) :
    ofContent v.indented.toUTF8 = .ok v.reread := by
  have hreturn : '\r' ∉ v.indented.toList := by
    intro h
    obtain h | h := Json.mem_indented hv h
    · exact absurd h (by decide)
    · exact absurd h (by decide)
  rw [ofContent, fileText?_toUTF8 hreturn]
  exact Except.mapError_eq_ok.2 (Json.read_reread hv)

/-- A file with the written content of a value is a document of the value that its text denotes. -/
lemma read_reread {path place : Path} {d : Disk} {v : Json} {stamp : Nat} (hv : v.IsFit)
    (hloc : d.locate path = .ok place) (hat : d.at? place = some (.file v.indented.toUTF8 stamp)) :
    read path d = .ok v.reread := by
  rw [read, Disk.read, hloc]
  simp only [hat, ofContent_reread hv]

/-- A file with the written content of a plain value is a document of that value. -/
lemma read_written {path place : Path} {d : Disk} {v : Json} {stamp : Nat} (hv : v.IsPlain)
    (hloc : d.locate path = .ok place) (hat : d.at? place = some (.file v.indented.toUTF8 stamp)) :
    read path d = .ok v := by
  rw [read_reread hv.isFit hloc hat, Json.reread_of_isPlain hv]

end Document

end FeedWatch
