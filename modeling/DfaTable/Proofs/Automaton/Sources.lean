import DfaTable.Proofs.Automaton.RoundTrip
import DfaTable.Proofs.Markup.Plain
import DfaTable.Proofs.Markup.Sources

/-!
# DfaTable.Proofs.Automaton.Sources

The same document as text and in the bytes of UTF-8. Text is read in pieces of so many characters,
bytes in pieces of so many bytes; so the two give the same automaton where the pieces are the same,
or where it does not matter how the document is cut.

* `ofForest_feedBytes`: the automaton does not depend on which of the two is read.
* `loadSource_encode`: the bytes of a document, with and without a mark, give what its text gives.
-/

namespace DfaTable

open Text Markup Encoding

namespace Automaton

/-- Where texts are cut does not count for the automaton. -/
theorem ofForest_congr {f g : Feed}
    (h : f.events.flatMap Event.spread = g.events.flatMap Event.spread) :
    ofForest (.ofFeed f) = ofForest (.ofFeed g) := by
  rw [← ofForest_spread, ← ofForest_spread (.ofFeed g), Forest.ofFeed, Forest.ofFeed,
    ← Forest.ofEvents_spread, ← Forest.ofEvents_spread, h]

/-- Text and the bytes of UTF-8 in pieces of their own. -/
theorem ofForest_feedBytes {t : Text} (hc : ∀ c ∈ t, isChar c = true)
    (ht : t.IsAscii ∨ (Utf8.encode t).length ≤ Source.pieceSize ∨
      Progress.IsSteady {} (inputOf t)) :
    ofForest (.ofFeed (Source.feedBytes .utf8 [] (Source.inPieces Source.pieceSize
        (Utf8.encode t)))) =
      ofForest (.ofFeed (Source.feedText [] (Source.inPieces Source.pieceSize t))) := by
  rcases ht with ha | hl | hs
  · rw [Source.feedBytes_of_isAscii ha]
  · rw [Source.feedBytes_of_length_le hl]
  · have hbytes := Source.flatten_inPieces_encode t
    refine ofForest_congr ?_
    rw [Feed.spread_events_of_isSteady (Source.spells_feedBytes hbytes)
        (Source.cutsNoLineEnd_feedBytes hbytes) hc hs,
      Feed.spread_events_of_isSteady (Source.spells_inPieces t)
        (Source.cutsNoLineEnd_feedText _ _) hc hs]

end Automaton

section

variable {m : Text}

theorem loadSource_of_codingOf {b : List UInt8} (path : Text)
    (hb : Source.codingOf b = (.utf8, Utf8.encode (Source.unmarked m)))
    (hc : ∀ c ∈ m, isChar c = true)
    (hm : (Source.unmarked m).IsAscii ∨
      (Utf8.encode (Source.unmarked m)).length ≤ Source.pieceSize ∨
        Progress.IsSteady {} (inputOf (Source.unmarked m))) :
    loadSource path (.bytes b) = loadSource path (.text m) := by
  have hu : ∀ c ∈ Source.unmarked m, isChar c = true := by
    intro c h
    rcases Source.unmarked_cases m with he | ⟨-, he⟩
    · exact hc c (he ▸ List.mem_cons_of_mem _ h)
    · exact hc c (he ▸ h)
  have hf : Automaton.ofSource (.bytes b) = Automaton.ofSource (.text m) := by
    rw [Automaton.ofSource, Automaton.ofSource, Forest.ofSource, Forest.ofSource,
      Source.feed_text, ← Automaton.ofForest_feedBytes hu hm]
    simp only [Source.feed, hb]
  rw [loadSource, loadSource, hf]

/-- The bytes of a document that say no other coding, or that have a mark in front of them, give
what its text gives, the reports and the numbers that break loading off included: if it is of ASCII,
or fits into one piece, or if reading stops in time everywhere in it. -/
theorem loadSource_encode (path : Text) (hc : ∀ c ∈ m, isChar c = true)
    (hm : (Source.unmarked m).IsAscii ∨
      (Utf8.encode (Source.unmarked m)).length ≤ Source.pieceSize ∨
        Progress.IsSteady {} (inputOf (Source.unmarked m))) :
    ((∀ name, Source.declaredName? (Utf8.encode m) = some name → Coding.named name = .utf8) →
        loadSource path (.bytes (Utf8.encode m)) = loadSource path (.text m)) ∧
      (m.head? ≠ some '\uFEFF' →
        loadSource path (.bytes (0xEF :: 0xBB :: 0xBF :: Utf8.encode m)) =
          loadSource path (.text m)) := by
  rcases Source.unmarked_cases m with he | ⟨hh, he⟩
  · refine ⟨fun _ => loadSource_of_codingOf path ?_ hc hm, fun hn => absurd ?_ hn⟩
    · rw [he]
      exact Source.codingOf_encode_of_mark _
    · rw [he]
      rfl
  · refine ⟨fun hd => loadSource_of_codingOf path ?_ hc hm,
      fun _ => loadSource_of_codingOf path ?_ hc hm⟩
    · rw [he]
      exact Source.codingOf_encode_of_declaredName? hh hd
    · rw [he]
      exact codingOf_marked _

/-- More than one piece, cut inside a character in its bytes. -/
def longName : Text :=
  "<structure><type>".toList ++ List.replicate 300 'é' ++ "</type></structure>".toList

theorem loadSource_encode_longName :
    loadSource [] (.bytes (Utf8.encode longName)) = loadSource [] (.text longName) ∧
      loadSource [] (.bytes (0xEF :: 0xBB :: 0xBF :: Utf8.encode longName)) =
        loadSource [] (.text longName) := by
  have hc : ∀ c ∈ longName, isChar c = true := List.all_eq_true.1 (by decide +kernel)
  have hplain : IsPlain (inputOf longName) :=
    ⟨by decide +kernel, by decide +kernel, by decide +kernel, by decide +kernel⟩
  have hname : Source.declaredName? (Utf8.encode longName) = none := by decide +kernel
  obtain ⟨hbytes, hmarked⟩ := loadSource_encode [] hc
    (.inr (.inr (Progress.isSteady_of_isPlain hplain)))
  refine ⟨hbytes fun name h => ?_, hmarked (by decide +kernel)⟩
  rw [hname] at h
  cases h

end

/-- A comment that its reader goes past the end of where more of the document has come in. -/
def pastComment : Text :=
  "<structure><?p ".toList ++ List.replicate 240 'é' ++
    "?><!-- x ---><automaton><state id=\"0\"/></automaton><!-- y --></structure>".toList

/-- The declaration is UTF-8, but another name stands behind it on its line. -/
def namedTwice : Text :=
  "<?xml version=\"1.0\" encoding=\"utf-8\"?><?p encoding=\"iso-8859-1\"?><type>é</type>".toList

/-- The automaton that was loaded, if one was. -/
def loaded? (r : Except Oversized (Except LoadError Automaton)) : Option Automaton :=
  r.toOption.bind Except.toOption

theorem loadSource_encode_ne :
    ((∀ c ∈ pastComment, isChar c = true) ∧
      Source.declaredName? (Utf8.encode pastComment) = none ∧
      loadSource [] (.bytes (Utf8.encode pastComment)) ≠ loadSource [] (.text pastComment) ∧
      loadSource [] (.bytes (0xEF :: 0xBB :: 0xBF :: Utf8.encode pastComment)) ≠
        loadSource [] (.text pastComment)) ∧
    (∀ c ∈ namedTwice, isChar c = true) ∧
      "<?xml version=\"1.0\" encoding=\"utf-8\"?>".toList <+: namedTwice ∧
      loadSource [] (.bytes (Utf8.encode namedTwice)) ≠ loadSource [] (.text namedTwice) := by
  have differ : ∀ {r r' : Except Oversized (Except LoadError Automaton)},
      loaded? r ≠ loaded? r' → r ≠ r' := fun h he => h (congrArg loaded? he)
  have hpast : loadSource [] (.bytes (Utf8.encode pastComment)) ≠
      loadSource [] (.text pastComment) := differ (by decide +kernel)
  have hcoding : Source.codingOf (Utf8.encode pastComment) = (.utf8, Utf8.encode pastComment) := by
    decide +kernel
  have hmark : loadSource [] (.bytes (0xEF :: 0xBB :: 0xBF :: Utf8.encode pastComment)) =
      loadSource [] (.bytes (Utf8.encode pastComment)) := by
    simp only [loadSource, Automaton.ofSource, Forest.ofSource, Source.feed, hcoding,
      codingOf_marked]
  refine ⟨⟨List.all_eq_true.1 (by decide +kernel), by decide +kernel, hpast, ?_⟩,
    List.all_eq_true.1 (by decide +kernel), ⟨_, rfl⟩, differ (by decide +kernel)⟩
  rw [hmark]
  exact hpast

end DfaTable
