import Footprint.Chat
import Footprint.Proofs.Json.RoundTrip
import Footprint.Proofs.Outcome
import Mathlib.Data.List.TakeWhile

/-! The value in a reply. A reply that writes one value stands for it. Of any other the part from its first
opening brace to the last closing brace behind that is read, so that an object among other words is found,
whatever braces its own texts hold. A reply without such a part, or with one that writes no value, is
refused. -/
namespace Footprint.Chat

open Json (decode)

/-! ### The part in braces -/

/-- A part with what stands around it: it begins with the first opening brace and ends with the last closing
one. -/
structure Frames (front part back : List Char) : Prop where
  opens : part.head? = some '\x7b'
  closes : part.getLast? = some '\x7d'
  front_plain : '\x7b' ∉ front
  back_plain : '\x7d' ∉ back

instance (front part back : List Char) : Decidable (Frames front part back) :=
  decidable_of_iff (part.head? = some '\x7b' ∧ part.getLast? = some '\x7d' ∧ '\x7b' ∉ front ∧ '\x7d' ∉ back)
    ⟨fun ⟨a, b, c, d⟩ => ⟨a, b, c, d⟩, fun ⟨a, b, c, d⟩ => ⟨a, b, c, d⟩⟩

theorem dropWhile_append_of_head? {c : Char} {front rest : List Char} (plain : c ∉ front)
    (stops : rest.head? = some c) : (front ++ rest).dropWhile (· != c) = rest := by
  have passed : ∀ d ∈ front, (d != c) = true := fun d hd => by simpa using ne_of_mem_of_not_mem hd plain
  rw [List.dropWhile_append_of_pos passed]
  obtain ⟨more, rfl⟩ := List.head?_eq_some_iff.mp stops
  exact List.dropWhile_cons_of_neg (by simp)

theorem exists_append_dropWhile (c : Char) (text : List Char) :
    ∃ front rest, text.dropWhile (· != c) = rest ∧ text = front ++ rest ∧ c ∉ front ∧
      (rest ≠ [] → rest.head? = some c) := by
  refine ⟨text.takeWhile (· != c), _, rfl, List.takeWhile_append_dropWhile.symm, fun mem => ?_, fun some => ?_⟩
  · simpa using List.mem_takeWhile_imp mem
  · rw [List.head?_eq_some_head some]
    simpa using List.head_dropWhile_not (· != c) some

/-- There is at most one part between the first opening and the last closing brace, and it is found. -/
theorem bracedPart?_eq_some_iff {text part : List Char} :
    bracedPart? text = some part ↔ ∃ front back, text = front ++ part ++ back ∧ Frames front part back := by
  constructor
  · intro found
    obtain ⟨front, fromOpening, dropped, rfl, frontPlain, opens⟩ := exists_append_dropWhile '\x7b' text
    obtain ⟨tail, kept, droppedBack, reversed, tailPlain, closes⟩ :=
      exists_append_dropWhile '\x7d' fromOpening.reverse
    rw [bracedPart?, dropped, droppedBack] at found
    obtain ⟨nonempty, rfl⟩ : kept ≠ [] ∧ kept.reverse = part := by simpa using found
    obtain rfl : fromOpening = kept.reverse ++ tail.reverse := by
      rw [← List.reverse_append, ← reversed, List.reverse_reverse]
    refine ⟨front, tail.reverse, by rw [List.append_assoc], ?_, ?_, frontPlain, by simpa⟩
    · have begins := opens (by simp [nonempty])
      rwa [List.head?_append_of_ne_nil _ (by simpa)] at begins
    · rw [List.getLast?_reverse]
      exact closes nonempty
  · rintro ⟨front, back, rfl, frames⟩
    have opens : (part ++ back).head? = some '\x7b' := by rw [List.head?_append, frames.opens]; rfl
    have closes : part.reverse.head? = some '\x7d' := by rw [List.head?_reverse, frames.closes]
    have plain : '\x7d' ∉ back.reverse := by simpa using frames.back_plain
    have nonempty : part ≠ [] := by
      rintro rfl
      cases frames.opens
    rw [bracedPart?, List.append_assoc, dropWhile_append_of_head? frames.front_plain opens]
    rw [List.reverse_append, dropWhile_append_of_head? plain closes, List.reverse_reverse, if_neg (by simpa)]

/-! ### The reply -/

theorem decodeAll_cases (text : String) :
    (∃ value, decode text = .ok value ∧ decodeAll text = .ok (some value)) ∨
      (decode text = .error .malformed ∧ decodeAll text = .ok none) ∨
      ∃ count, decode text = .error (.tooManyDigits count) ∧
        decodeAll text = .error (.replyTooManyDigits count) := by
  unfold decodeAll
  cases decode text with
  | ok value => exact .inl ⟨value, rfl, rfl⟩
  | error cause =>
    cases cause with
    | malformed => exact .inr (.inl ⟨rfl, rfl⟩)
    | tooManyDigits count => exact .inr (.inr ⟨count, rfl, rfl⟩)

theorem ne_empty_of_decode {text : String} (written : decode text ≠ .error .malformed) : text ≠ "" := by
  rintro rfl
  exact written rfl

theorem readReply_of_empty {content : Option String} (empty : content.getD "" = "") :
    readReply content = .error .emptyReply := by
  rw [readReply, empty]
  rfl

theorem readReply_of_decode {text : String} {value : Json} (whole : decode text = .ok value) :
    readReply (some text) = .ok value := by
  have nonempty := ne_empty_of_decode (by rw [whole]; nofun)
  rw [readReply, Option.getD_some, if_neg (by simpa), decodeAll, whole]
  rfl

def valueOrRefusal (found : Option Json) : Outcome Json := found.elim (.error .undecodableReply) .ok

theorem readReply_of_malformed {text : String} (nonempty : text ≠ "")
    (whole : decode text = .error .malformed) :
    readReply (some text) = (bracedPart? text.toList).elim (.error .undecodableReply) fun part =>
      decodeAll (String.ofList part) >>= valueOrRefusal := by
  rw [readReply, Option.getD_some, if_neg (by simpa), decodeAll, whole]
  cases bracedPart? text.toList with
  | none => rfl
  | some part =>
    change (decodeAll (String.ofList part) >>= _) = (decodeAll (String.ofList part) >>= valueOrRefusal)
    congr 1
    funext found
    cases found <;> rfl

theorem bracedPart?_append {front part back : String}
    (frames : Frames front.toList part.toList back.toList) :
    bracedPart? (front ++ part ++ back).toList = some part.toList := by
  refine bracedPart?_eq_some_iff.mpr ⟨front.toList, back.toList, ?_, frames⟩
  rw [String.toList_append, String.toList_append]

theorem readReply_of_frames {front part back : String} {value : Json}
    (frames : Frames front.toList part.toList back.toList)
    (whole : decode (front ++ part ++ back) = .error .malformed) (written : decode part = .ok value) :
    readReply (some (front ++ part ++ back)) = .ok value := by
  have nonempty : front ++ part ++ back ≠ "" := by
    intro empty
    have found := bracedPart?_append frames
    rw [empty] at found
    cases found
  rw [readReply_of_malformed nonempty whole, bracedPart?_append frames, Option.elim_some, String.ofList_toList,
    decodeAll, written]
  rfl

structure WritesNone (text : String) : Prop where
  whole : decode text = .error .malformed
  part : ∀ front part back : String, text = front ++ part ++ back →
    Frames front.toList part.toList back.toList → decode part = .error .malformed

/-- An integer with so many digits stands in a text, or in its part in braces, before anything that is
malformed. -/
def HasLongInteger (text : String) (count : Nat) : Prop :=
  decode text = .error (.tooManyDigits count) ∨
    ∃ front part back : String, text = front ++ part ++ back ∧
      Frames front.toList part.toList back.toList ∧ decode part = .error (.tooManyDigits count)

theorem exists_frames_of_bracedPart? {text : String} {part : List Char}
    (found : bracedPart? text.toList = some part) :
    ∃ front back : String, text = front ++ String.ofList part ++ back ∧
      Frames front.toList (String.ofList part).toList back.toList := by
  obtain ⟨front, back, split, frames⟩ := bracedPart?_eq_some_iff.mp found
  refine ⟨String.ofList front, String.ofList back, ?_, by simpa using frames⟩
  rw [← String.toList_inj, split]
  simp

theorem readReply_of_writesNone {text : String} (nonempty : text ≠ "") (none : WritesNone text) :
    readReply (some text) = .error .undecodableReply := by
  rw [readReply_of_malformed nonempty none.whole]
  cases found : bracedPart? text.toList with
  | none => rfl
  | some part =>
    obtain ⟨front, back, split, frames⟩ := exists_frames_of_bracedPart? found
    rw [Option.elim_some, decodeAll, none.part _ _ _ split frames]
    rfl

theorem readReply_of_tooManyDigits {text : String} {count : Nat}
    (whole : decode text = .error (.tooManyDigits count)) :
    readReply (some text) = .error (.replyTooManyDigits count) := by
  have nonempty := ne_empty_of_decode (by rw [whole]; nofun)
  rw [readReply, Option.getD_some, if_neg (by simpa), decodeAll, whole]
  rfl

theorem cases_of_readReply_eq_error {content : Option String} {cause : Failure}
    (refused : readReply content = .error cause) :
    cause = .emptyReply ∨ cause = .undecodableReply ∨
      ∃ count, cause = .replyTooManyDigits count ∧ HasLongInteger (content.getD "") count := by
  by_cases nonempty : content.getD "" = ""
  · rw [readReply_of_empty nonempty] at refused
    exact .inl (Except.error.inj refused).symm
  obtain ⟨text, rfl⟩ : ∃ text, content = some text := by
    cases content with
    | none => exact absurd rfl nonempty
    | some text => exact ⟨text, rfl⟩
  rw [Option.getD_some] at nonempty ⊢
  rcases decodeAll_cases text with ⟨value, whole, -⟩ | ⟨whole, -⟩ | ⟨count, whole, -⟩
  · cases (readReply_of_decode whole).symm.trans refused
  · rw [readReply_of_malformed nonempty whole] at refused
    cases found : bracedPart? text.toList with
    | none =>
      rw [found] at refused
      exact .inr (.inl (Except.error.inj refused).symm)
    | some part =>
      obtain ⟨front, back, split, frames⟩ := exists_frames_of_bracedPart? found
      rw [found, Option.elim_some] at refused
      rcases decodeAll_cases (String.ofList part) with ⟨value, -, read⟩ | ⟨-, read⟩ | ⟨count, written, read⟩
      · rw [read] at refused
        cases refused
      · rw [read] at refused
        exact .inr (.inl (Except.error.inj refused).symm)
      · rw [read] at refused
        exact .inr (.inr ⟨count, (Except.error.inj refused).symm, .inr ⟨front, _, back, split, frames, written⟩⟩)
  · cases (readReply_of_tooManyDigits whole).symm.trans refused
    exact .inr (.inr ⟨count, rfl, .inl whole⟩)

/-- An object that is written among other words is recovered as it is, unless reply and words together write
a value, which then is the one. A reply that writes no value, neither by itself nor from its first opening to
its last closing brace, is refused as such, an empty one as empty, and for nothing else is one refused but
for an integer that is too long to be read. -/
theorem readReply_recovers :
    (∀ (front object back : String) (value : Json), Frames front.toList object.toList back.toList →
      decode object = .ok value →
        (∀ whole, decode (front ++ object ++ back) = .ok whole →
          readReply (some (front ++ object ++ back)) = .ok whole) ∧
        (decode (front ++ object ++ back) = .error .malformed →
          readReply (some (front ++ object ++ back)) = .ok value)) ∧
    (∀ content : Option String, content.getD "" = "" → readReply content = .error .emptyReply) ∧
    (∀ text, text ≠ "" → WritesNone text → readReply (some text) = .error .undecodableReply) ∧
    ∀ (content : Option String) (cause : Failure), readReply content = .error cause →
      cause = .emptyReply ∨ cause = .undecodableReply ∨
        ∃ count, cause = .replyTooManyDigits count ∧ HasLongInteger (content.getD "") count := by
  refine ⟨fun front object back value frames written => ⟨fun whole read => ?_, fun malformed => ?_⟩, ?_, ?_, ?_⟩
  · exact readReply_of_decode read
  · exact readReply_of_frames frames malformed written
  · exact fun content empty => readReply_of_empty empty
  · exact fun text nonempty none => readReply_of_writesNone nonempty none
  · exact fun content cause refused => cases_of_readReply_eq_error refused

def isMalformed (text : String) : Bool := (decode text matches .error .malformed)

theorem decode_of_isMalformed {text : String} (h : isMalformed text = true) :
    decode text = .error .malformed := by
  unfold isMalformed at h
  split at h
  · assumption
  · cases h

def bracedObject : Json := .object [("a", .string "\x7d\x7b"), ("b", .object [])]

def bracedText : String := "\x7b\"a\": \"\x7d\x7b\", \"b\": \x7b\x7d\x7d"

theorem readReply_recovers_bracedObject :
    decode bracedText = .ok bracedObject ∧
      readReply (some ("Sure \x7d:\n" ++ bracedText ++ "\n\x7b [")) = .ok bracedObject ∧
      readReply (some ("[" ++ bracedText ++ "]")) = .ok (.array [bracedObject]) ∧
      readReply none = .error .emptyReply ∧
      readReply (some "no object") = .error .undecodableReply ∧
      ∃ cause, readReply (some "no object") = .error cause ∧
        (cause = .emptyReply ∨ cause = .undecodableReply ∨
          ∃ count, cause = .replyTooManyDigits count ∧ HasLongInteger "no object" count) := by
  obtain ⟨recovered, empty, refused, only⟩ := readReply_recovers
  have printed : Json.print (Json.asciiStyle none) bracedObject = bracedText ∧
      Json.print (Json.asciiStyle none) (.array [bracedObject]) = "[" ++ bracedText ++ "]" := by
    decide +kernel
  have written : decode bracedText = .ok bracedObject := by
    rw [← printed.1]
    exact Json.decode_print _ (by decide +kernel) (by decide +kernel)
  have listed : decode ("[" ++ bracedText ++ "]") = .ok (.array [bracedObject]) := by
    rw [← printed.2]
    exact Json.decode_print _ (by decide +kernel) (by decide +kernel)
  have malformed : isMalformed ("Sure \x7d:\n" ++ bracedText ++ "\n\x7b [") = true ∧
      isMalformed "no object" = true := by decide +kernel
  have unbraced : bracedPart? "no object".toList = none := by decide +kernel
  have none : WritesNone "no object" := by
    refine ⟨decode_of_isMalformed malformed.2, fun front part back split frames => ?_⟩
    rw [split, bracedPart?_append frames] at unbraced
    cases unbraced
  have fenced := recovered "Sure \x7d:\n" bracedText "\n\x7b [" bracedObject (by decide +kernel) written
  have boxed := recovered "[" bracedText "]" bracedObject (by decide +kernel) written
  have undecodable := refused "no object" (by decide) none
  exact ⟨written, fenced.2 (decode_of_isMalformed malformed.1), boxed.1 _ listed, empty Option.none rfl,
    undecodable, _, undecodable, only _ _ undecodable⟩

end Footprint.Chat
