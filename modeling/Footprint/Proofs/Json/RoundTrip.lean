import Footprint.Proofs.Json.Double
import Footprint.Proofs.Json.Text

/-! JSON text is decoded to the value that it was printed from, in any style. The keys of each object must
be distinct, since of members with one key the last counts, and the integers short enough to be written. -/
namespace Footprint.Json

/-! ### Properties of every value in a value -/

mutual

def all (p : Json → Bool) : Json → Bool
  | .array items => p (.array items) && allItems p items
  | .object members => p (.object members) && allMembers p members
  | value => p value

def allItems (p : Json → Bool) : List Json → Bool
  | [] => true
  | item :: items => all p item && allItems p items

def allMembers (p : Json → Bool) : List (String × Json) → Bool
  | [] => true
  | (_, value) :: members => all p value && allMembers p members

end

def hasDistinctKeys : Json → Bool
  | .object members => decide (members.map Prod.fst).Nodup
  | _ => true

theorem insertMember_of_not_mem {key : String} {done : List (String × Json)} (value : Json)
    (new : key ∉ done.map Prod.fst) : insertMember key value done = done ++ [(key, value)] := by
  induction done with
  | nil => rfl
  | cons m done ih =>
    simp only [List.map_cons, List.mem_cons, not_or] at new
    simp [insertMember, Ne.symm new.1, ih new.2]

theorem ofMembers_of_nodup {members : List (String × Json)} (distinct : (members.map Prod.fst).Nodup) :
    ofMembers members = .object members := by
  have grown (done members : List (String × Json)) (distinct : ((done ++ members).map Prod.fst).Nodup) :
      members.foldl (fun done m => insertMember m.1 m.2 done) done = done ++ members := by
    induction members generalizing done with
    | nil => simp
    | cons m members ih =>
      have new : m.1 ∉ done.map Prod.fst := by
        intro old
        simp only [List.map_append, List.map_cons, List.nodup_append] at distinct
        exact distinct.2.2 m.1 old m.1 (by simp) rfl
      rw [List.foldl_cons, insertMember_of_not_mem m.2 new, ih, List.append_assoc, List.singleton_append]
      simpa using distinct
  rw [ofMembers, grown [] members (by simpa using distinct), List.nil_append]

/-! ### Blanks -/

def IsBlank (gap : List Char) : Prop := ∀ c ∈ gap, isSpace c = true

def IsInked (text : List Char) : Prop := ∃ c more, text = c :: more ∧ isSpace c = false

variable {gap text rest : List Char}

theorem skipSpace_append (blank : IsBlank gap) (inked : IsInked text) : skipSpace (gap ++ text) = text := by
  obtain ⟨c, more, rfl, ink⟩ := inked
  rw [skipSpace, List.dropWhile_append_of_pos blank, List.dropWhile_cons_of_neg (by simp [ink])]

theorem skipSpace_of_isInked (inked : IsInked text) : skipSpace text = text := by
  have nothing : IsBlank [] := by simp [IsBlank]
  exact skipSpace_append nothing inked

theorem skipSpace_colon (text : List Char) : skipSpace (':' :: text) = ':' :: text := by
  simp [skipSpace, isSpace]

theorem skipSpace_comma (text : List Char) : skipSpace (',' :: text) = ',' :: text := by
  simp [skipSpace, isSpace]

theorem ends_append (blank : IsBlank gap) (ends : Ends text) : Ends (gap ++ text) := by
  cases gap with
  | nil => exact ends
  | cons c gap =>
    have space := blank c (by simp)
    simp only [isSpace, Bool.or_eq_true, beq_iff_eq] at space
    obtain ((rfl | rfl) | rfl) | rfl := space <;> simp

theorem isBlank_lineBreak (style : Style) (level : Nat) : IsBlank (lineBreak style level).toList := by
  unfold lineBreak
  split
  · simp [IsBlank]
  · simp +contextual [IsBlank, isSpace]

theorem exists_separator (style : Style) (level : Nat) :
    ∃ gap, (separator style level).toList = ',' :: gap ∧ IsBlank gap := by
  unfold separator
  split
  · exact ⟨[' '], rfl, by simp [IsBlank, isSpace]⟩
  · exact ⟨_, by simp, isBlank_lineBreak style level⟩

/-! ### Values that are no lists -/

theorem wholePart_eq_none {c : Char} (digit : c.isDigit = false) (more : List Char) :
    wholePart (c :: more) = none := by
  have nonzero : c ≠ '0' := by
    rintro rfl
    cases digit
  simp [wholePart, nonzero, digit]

theorem isDigit_of_number {text : List Char} {found : Json × List Char} (h : number text = .ok found) :
    ∃ c more, c.isDigit = true ∧ (text = c :: more ∨ text = '-' :: c :: more) := by
  cases text with
  | nil => cases h
  | cons c more =>
    by_cases minus : c = '-'
    · subst minus
      cases more with
      | nil => cases h
      | cons d more =>
        refine ⟨d, more, ?_, .inr rfl⟩
        by_contra other
        have none := wholePart_eq_none (Bool.eq_false_iff.mpr other) more
        simp [number, none, error_bind] at h
    · refine ⟨c, more, ?_, .inl rfl⟩
      by_contra other
      have none := wholePart_eq_none (Bool.eq_false_iff.mpr other) more
      simp [number, minus, none, error_bind] at h

theorem value_of_number {text : List Char} {found : Json × List Char} (h : number text = .ok found)
    (fuel : Nat) : value (fuel + 1) text = .ok found := by
  obtain ⟨c, more, digit, start⟩ := isDigit_of_number h
  have other (d : Char) (letter : d.isDigit = false) : d ≠ c := by
    rintro rfl
    exact absurd digit (by simp [letter])
  have unnamed : named? text = none := by
    obtain rfl | rfl := start <;> simp [named?, names, other]
  have apart (d : Char) (letter : d.isDigit = false) (sign : d ≠ '-') (rest : List Char)
      (same : text = d :: rest) : False := by
    subst same
    obtain start | start := start
    · exact other d letter (List.cons.inj start).1
    · exact sign (List.cons.inj start).1
  rw [value, unnamed]
  · exact h
  all_goals exact apart _ rfl (by decide)

theorem value_null (rest : List Char) (fuel : Nat) :
    value (fuel + 1) ("null".toList ++ rest) = .ok (.null, rest) := by
  simp [value, named?, names]
  rfl

theorem value_bool (b : Bool) (rest : List Char) (fuel : Nat) :
    value (fuel + 1) ((if b then "true" else "false").toList ++ rest) = .ok (.bool b, rest) := by
  cases b <;> simp [value, named?, names] <;> rfl

theorem value_float (x : Binary64) (ends : Ends rest) (fuel : Nat) :
    value (fuel + 1) ((floatText x).toList ++ rest) = .ok (.float x, rest) := by
  cases x with
  | nan => rfl
  | infinite negative => cases negative <;> rfl
  | finite negative m p fits => exact value_of_number (number_text rfl ends) fuel

theorem value_string (style : Style) (s : String) (rest : List Char) (fuel : Nat) :
    value (fuel + 1) ((stringText style s).toList ++ rest) = .ok (.string s, rest) := by
  rw [toList_stringText, List.cons_append, List.append_assoc, List.singleton_append, value]
  simp [stringBody_escaped]

theorem value_eq_error {c : Char} (h : isSpace c = true ∨ c = ']') (more : List Char) (fuel : Nat) :
    value fuel (c :: more) = .error .malformed := by
  cases fuel with
  | zero => rfl
  | succ fuel =>
    simp only [isSpace, Bool.or_eq_true, beq_iff_eq] at h
    obtain (((rfl | rfl) | rfl) | rfl) | rfl := h <;>
      simp [value, named?, names, number, wholePart, error_bind]

theorem isInked_of_value {fuel : Nat} {found : Json × List Char} (h : value fuel text = .ok found) :
    IsInked text ∧ ∀ more, text ≠ ']' :: more := by
  cases text with
  | nil => cases fuel <;> cases h
  | cons c more =>
    refine ⟨⟨c, more, rfl, ?_⟩, ?_⟩
    · by_contra space
      rw [value_eq_error (.inl (by simpa using space))] at h
      cases h
    · rintro more' same
      rw [value_eq_error (.inr (List.cons.inj same).1)] at h
      cases h

theorem isInked_of_items {fuel : Nat} {found : List Json × List Char} (h : items fuel text = .ok found) :
    IsInked text ∧ ∀ more, text ≠ ']' :: more := by
  cases fuel with
  | zero => cases h
  | succ fuel =>
    obtain ⟨first, decoded, -⟩ := exists_of_bind_eq_ok h
    exact isInked_of_value decoded

/-! ### Lists -/

variable {fuel : Nat} {more : List Char}

theorem items_last {item : Json} (blank : IsBlank gap)
    (first : value fuel text = .ok (item, gap ++ ']' :: rest)) :
    items (fuel + 1) text = .ok ([item], rest) := by
  have closes : skipSpace (gap ++ ']' :: rest) = ']' :: rest := skipSpace_append blank ⟨_, _, rfl, rfl⟩
  simp [items, first, closes, ok_bind]
  rfl

theorem items_cons {item : Json} {found : List Json} (blank : IsBlank gap)
    (first : value fuel text = .ok (item, ',' :: (gap ++ more)))
    (others : items fuel more = .ok (found, rest)) :
    items (fuel + 1) text = .ok (item :: found, rest) := by
  have next := skipSpace_append blank (isInked_of_items others).1
  simp [items, first, skipSpace_comma, next, others, ok_bind]

theorem value_array {found : List Json} (blank : IsBlank gap) (h : items fuel text = .ok (found, rest)) :
    value (fuel + 1) ('[' :: (gap ++ text)) = .ok (.array found, rest) := by
  obtain ⟨inked, unclosed⟩ := isInked_of_items h
  rw [value, skipSpace_append blank inked]
  split
  · exact absurd rfl (unclosed _)
  · rw [h]
    rfl

def keyText (style : Style) (key : String) : List Char := (stringText style key).toList ++ [':', ' ']

section

variable (style : Style) (key : String) {v : Json} {found : List (String × Json)}

theorem stringBody_keyText (text : List Char) :
    ∃ body, keyText style key ++ text = '"' :: body ∧
      stringBody body = some (key.toList, ':' :: ' ' :: text) := by
  refine ⟨key.toList.flatMap (escapeChar style) ++ '"' :: ':' :: ' ' :: text, ?_,
    stringBody_escaped style _ _⟩
  simp [keyText, toList_stringText]

theorem skipSpace_value {found : Json × List Char} (h : value fuel text = .ok found) :
    skipSpace (' ' :: text) = text := by
  have blank : IsBlank [' '] := by simp [IsBlank, isSpace]
  exact skipSpace_append blank (isInked_of_value h).1

theorem members_last (blank : IsBlank gap)
    (first : value fuel text = .ok (v, gap ++ '\x7d' :: rest)) :
    members (fuel + 1) (keyText style key ++ text) = .ok ([(key, v)], rest) := by
  obtain ⟨body, quoted, decoded⟩ := stringBody_keyText style key text
  have closes : skipSpace (gap ++ '\x7d' :: rest) = '\x7d' :: rest :=
    skipSpace_append blank ⟨_, _, rfl, rfl⟩
  rw [quoted]
  simp [members, decoded, skipSpace_colon, skipSpace_value first, first, closes, ok_bind]
  rfl

theorem exists_of_members {found : List (String × Json) × List Char} (h : members fuel text = .ok found) :
    ∃ more, text = '"' :: more := by
  cases fuel with
  | zero => cases h
  | succ fuel =>
    unfold members at h
    split at h
    · exact ⟨_, rfl⟩
    · cases h

theorem members_cons (blank : IsBlank gap) (first : value fuel text = .ok (v, ',' :: (gap ++ more)))
    (others : members fuel more = .ok (found, rest)) :
    members (fuel + 1) (keyText style key ++ text) = .ok ((key, v) :: found, rest) := by
  obtain ⟨body, quoted, decoded⟩ := stringBody_keyText style key text
  obtain ⟨start, rfl⟩ := exists_of_members others
  have inked : IsInked ('"' :: start) := ⟨_, _, rfl, rfl⟩
  have next := skipSpace_append blank inked
  rw [quoted]
  simp [members, decoded, skipSpace_colon, skipSpace_value first, first, skipSpace_comma, next, others,
    ok_bind]

theorem value_object (blank : IsBlank gap) (h : members fuel text = .ok (found, rest)) :
    value (fuel + 1) ('\x7b' :: (gap ++ text)) = .ok (ofMembers found, rest) := by
  obtain ⟨start, rfl⟩ := exists_of_members h
  rw [value, skipSpace_append blank ⟨_, _, rfl, rfl⟩]
  change (members fuel ('"' :: start) >>= fun found => pure (ofMembers found.1, found.2)) = _
  rw [h]
  rfl

end

/-! ### Fuel -/

mutual

def fuelFor : Json → Nat
  | .array items => 1 + fuelForItems items
  | .object members => 1 + fuelForMembers members
  | _ => 1

def fuelForItems : List Json → Nat
  | [] => 0
  | item :: items => 1 + fuelFor item + fuelForItems items

def fuelForMembers : List (String × Json) → Nat
  | [] => 0
  | (_, value) :: members => 1 + fuelFor value + fuelForMembers members

end

theorem fuelFor_pos (v : Json) : 0 < v.fuelFor := by
  cases v <;> simp [fuelFor]

mutual

theorem value_render (style : Style) : ∀ (v : Json) (fuel level : Nat) (rest : List Char),
    v.all hasDistinctKeys = true → v.isWritable = true → v.fuelFor ≤ fuel → Ends rest →
      value fuel ((render style level v).toList ++ rest) = .ok (v, rest)
  | .null, fuel + 1, level, rest => fun _ _ _ _ => value_null rest fuel
  | .bool b, fuel + 1, level, rest => fun _ _ _ _ => value_bool b rest fuel
  | .int n, fuel + 1, level, rest => fun _ short _ ends => value_of_number (number_int short ends) fuel
  | .float x, fuel + 1, level, rest => fun _ _ _ ends => value_float x ends fuel
  | .string s, fuel + 1, level, rest => fun _ _ _ _ => value_string style s rest fuel
  | .array [], fuel + 1, level, rest => fun _ _ _ _ => by simp [render, value, skipSpace, isSpace]
  | .array (item :: items), fuel + 1, level, rest => fun distinct written enough _ => by
    simp only [all, Bool.and_eq_true] at distinct
    simp only [fuelFor] at enough
    have decoded := items_render style item items fuel (level + 1) (lineBreak style level).toList rest
      distinct.2 written (by omega) (isBlank_lineBreak style level)
    rw [← value_array (isBlank_lineBreak style (level + 1)) decoded]
    simp [render]
  | .object [], fuel + 1, level, rest => fun _ _ _ _ => by simp [render, value, skipSpace, isSpace]
  | .object ((key, v) :: members), fuel + 1, level, rest => fun distinct written enough _ => by
    simp only [all, hasDistinctKeys, Bool.and_eq_true, decide_eq_true_eq] at distinct
    simp only [fuelFor] at enough
    have decoded := members_render style key v members fuel (level + 1) (lineBreak style level).toList
      rest distinct.2 written (by omega) (isBlank_lineBreak style level)
    have object := value_object (isBlank_lineBreak style (level + 1)) decoded
    rw [ofMembers_of_nodup distinct.1] at object
    rw [← object]
    simp [render, keyText]
  | v, 0, _, _ => fun _ _ enough _ => absurd enough (Nat.not_le.mpr (fuelFor_pos v))

theorem items_render (style : Style) : ∀ (item : Json) (items : List Json) (fuel level : Nat)
    (gap rest : List Char), allItems hasDistinctKeys (item :: items) = true →
    areWritable (item :: items) = true → fuelForItems (item :: items) ≤ fuel → IsBlank gap →
      Json.items fuel ((render style level item).toList ++ ((renderItems style level items).toList ++
        (gap ++ ']' :: rest))) = .ok (item :: items, rest)
  | item, [], fuel + 1, level, gap, rest => fun distinct written enough blank => by
    simp only [allItems, areWritable, fuelForItems, Bool.and_eq_true] at distinct written enough
    exact items_last blank (value_render style item fuel level (gap ++ ']' :: rest) distinct.1
      written.1 (by omega) (ends_append blank (by simp)))
  | item, next :: items, fuel + 1, level, gap, rest => fun distinct written enough blank => by
    rw [allItems, Bool.and_eq_true] at distinct
    rw [areWritable, Bool.and_eq_true] at written
    rw [fuelForItems] at enough
    obtain ⟨space, separated, between⟩ := exists_separator style level
    have others := items_render style next items fuel level gap rest distinct.2 written.2 (by omega) blank
    have text : (renderItems style level (next :: items)).toList ++ (gap ++ ']' :: rest) =
        ',' :: (space ++ ((render style level next).toList ++
          ((renderItems style level items).toList ++ (gap ++ ']' :: rest)))) := by
      simp [renderItems, separated]
    rw [text]
    exact items_cons between
      (value_render style item fuel level _ distinct.1 written.1 (by omega) (by simp)) others
  | _, _, 0, _, _, _ => fun _ _ enough _ => by simp [fuelForItems] at enough

theorem members_render (style : Style) : ∀ (key : String) (v : Json) (members : List (String × Json))
    (fuel level : Nat) (gap rest : List Char), allMembers hasDistinctKeys ((key, v) :: members) = true →
    membersWritable ((key, v) :: members) = true → fuelForMembers ((key, v) :: members) ≤ fuel →
    IsBlank gap →
      Json.members fuel (keyText style key ++ ((render style level v).toList ++
        ((renderMembers style level members).toList ++ (gap ++ '\x7d' :: rest)))) =
          .ok ((key, v) :: members, rest)
  | key, v, [], fuel + 1, level, gap, rest => fun distinct written enough blank => by
    simp only [allMembers, membersWritable, fuelForMembers, Bool.and_eq_true] at distinct written enough
    exact members_last style key blank (value_render style v fuel level (gap ++ '\x7d' :: rest)
      distinct.1 written.1 (by omega) (ends_append blank (by simp)))
  | key, v, (key', w) :: members, fuel + 1, level, gap, rest => fun distinct written enough blank => by
    rw [allMembers, Bool.and_eq_true] at distinct
    rw [membersWritable, Bool.and_eq_true] at written
    rw [fuelForMembers] at enough
    obtain ⟨space, separated, between⟩ := exists_separator style level
    have others := members_render style key' w members fuel level gap rest distinct.2 written.2
      (by omega) blank
    have text : (renderMembers style level ((key', w) :: members)).toList ++ (gap ++ '\x7d' :: rest) =
        ',' :: (space ++ (keyText style key' ++ ((render style level w).toList ++
          ((renderMembers style level members).toList ++ (gap ++ '\x7d' :: rest))))) := by
      simp [renderMembers, separated, keyText]
    rw [text]
    exact members_cons style key between
      (value_render style v fuel level _ distinct.1 written.1 (by omega) (by simp)) others
  | _, _, _, 0, _, _, _ => fun _ _ enough _ => by simp [fuelForMembers] at enough

end

/-! ### Whole texts -/

theorem floatText_pos (x : Binary64) : 0 < (floatText x).toList.length := by
  have decoded := value_float x ends_nil 0
  rw [List.append_nil] at decoded
  obtain ⟨⟨c, more, text, -⟩, -⟩ := isInked_of_value decoded
  simp [text]

mutual

theorem fuelFor_le (style : Style) : ∀ (v : Json) (level : Nat),
    v.fuelFor ≤ (render style level v).toList.length
  | .null, level => by simp [fuelFor, render]
  | .bool b, level => by cases b <;> simp [fuelFor, render]
  | .int n, level => by
    have some := List.length_pos_of_ne_nil (isWhole_toDigits n.natAbs).ne_nil
    simp only [fuelFor, render, toList_toString_int, List.length_append]
    omega
  | .float x, level => floatText_pos x
  | .string s, level => by simp [fuelFor, render, toList_stringText]
  | .array [], level => by simp [fuelFor, fuelForItems, render]
  | .array (item :: items), level => by
    have first := fuelFor_le style item (level + 1)
    have others := fuelForItems_le style items (level + 1)
    simp only [fuelFor, fuelForItems, render, String.toList_append, List.length_append]
    simp
    omega
  | .object [], level => by simp [fuelFor, fuelForMembers, render]
  | .object ((key, v) :: members), level => by
    have first := fuelFor_le style v (level + 1)
    have others := fuelForMembers_le style members (level + 1)
    simp only [fuelFor, fuelForMembers, render, String.toList_append, List.length_append]
    simp
    omega

theorem fuelForItems_le (style : Style) : ∀ (items : List Json) (level : Nat),
    fuelForItems items ≤ (renderItems style level items).toList.length
  | [], level => Nat.zero_le _
  | item :: items, level => by
    obtain ⟨gap, separated, -⟩ := exists_separator style level
    have first := fuelFor_le style item level
    have others := fuelForItems_le style items level
    simp only [fuelForItems, renderItems, String.toList_append, List.length_append, separated,
      List.length_cons]
    omega

theorem fuelForMembers_le (style : Style) : ∀ (members : List (String × Json)) (level : Nat),
    fuelForMembers members ≤ (renderMembers style level members).toList.length
  | [], level => Nat.zero_le _
  | (key, v) :: members, level => by
    obtain ⟨gap, separated, -⟩ := exists_separator style level
    have first := fuelFor_le style v level
    have others := fuelForMembers_le style members level
    simp only [fuelForMembers, renderMembers, String.toList_append, List.length_append, separated,
      List.length_cons]
    omega

end

theorem decode_print (style : Style) {v : Json} (distinct : v.all hasDistinctKeys = true)
    (written : v.isWritable = true) : decode (print style v) = .ok v := by
  have enough := fuelFor_le style v 0
  have decoded : value (2 * (print style v).toList.length + 2) (print style v).toList = .ok (v, []) := by
    have whole := value_render style v (2 * (print style v).toList.length + 2) 0 [] distinct written
      (by rw [print]; omega) ends_nil
    rwa [List.append_nil] at whole
  rw [decode]
  dsimp only
  rw [skipSpace_of_isInked (isInked_of_value decoded).1, decoded]
  rfl

end Footprint.Json
