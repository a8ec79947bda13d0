import Mathlib.Data.List.Basic
import Mathlib.Data.List.Induction
import Mathlib.Data.List.TakeWhile
import Mathlib.Algebra.GroupWithZero.Nat
import Mathlib.Tactic.Common

namespace Text

def ascii (text : String) : List UInt8 := text.toByteArray.data.toList

def decimal (value : Nat) : List UInt8 := (Nat.toDigits 10 value).map fun c => UInt8.ofNat c.toNat

theorem length_decimal_le {value width : Nat} (hwidth : 0 < width) (hvalue : value < 10 ^ width) :
    (decimal value).length ≤ width := by
  rw [decimal, List.length_map]
  exact (Nat.length_toDigits_le_iff (by decide) hwidth).mpr hvalue

@[simp] theorem lt_not_mem_decimal (value : Nat) : 60 ∉ decimal value := by
  rw [decimal, List.mem_map]
  rintro ⟨c, hc, hlt⟩
  obtain ⟨_, hnine⟩ := Char.isDigit_iff_toNat.mp (Nat.isDigit_of_mem_toDigits (by decide) (by decide) hc)
  have hnine : c.toNat ≤ 57 := hnine
  have hlt : c.toNat % 256 = 60 := congrArg UInt8.toNat hlt
  omega

variable {c : UInt8} {left text : List UInt8}

variable {left' right right' : List UInt8} {lines lines' : List (List UInt8)}

/-- Cutting at the first of some byte finds it. -/
theorem takeWhile_ne_append (hleft : c ∉ left) (right : List UInt8) :
    (left ++ c :: right).takeWhile (· ≠ c) = left := by
  have hkept : ∀ b ∈ left, decide (b ≠ c) = true := fun b hb => decide_eq_true fun heq => hleft (heq ▸ hb)
  rw [List.takeWhile_append_of_pos hkept, List.takeWhile_cons_of_neg (by simp), List.append_nil]

/-- A text that is cut at the first of some byte is cut in one way. -/
theorem append_cons_inj (hleft : c ∉ left) (hleft' : c ∉ left') (hsame : left ++ c :: right = left' ++ c :: right') :
    left = left' ∧ right = right' := by
  have hcut := congrArg (List.takeWhile (· ≠ c)) hsame
  rw [takeWhile_ne_append hleft, takeWhile_ne_append hleft'] at hcut
  subst hcut
  exact ⟨rfl, (List.cons.inj (List.append_cancel_left hsame)).2⟩

/-- A text that is cut at the last of some byte is cut in one way. -/
theorem append_cons_inj_last (hright : c ∉ right) (hright' : c ∉ right')
    (hsame : left ++ c :: right = left' ++ c :: right') : left = left' ∧ right = right' := by
  have hreverse := congrArg List.reverse hsame
  simp only [List.reverse_append, List.reverse_cons, List.append_assoc, List.singleton_append] at hreverse
  obtain ⟨hright, hleft⟩ := append_cons_inj (by simpa using hright) (by simpa using hright') hreverse
  exact ⟨List.reverse_inj.mp hleft, List.reverse_inj.mp hright⟩

/-- The last lines of a text, as many as are given, can be read back. -/
theorem append_lines_inj {front front' : List UInt8} (hlength : lines.length = lines'.length)
    (hlines : ∀ line ∈ lines, c ∉ line) (hlines' : ∀ line ∈ lines', c ∉ line)
    (hsame : front ++ lines.flatMap (c :: ·) = front' ++ lines'.flatMap (c :: ·)) :
    front = front' ∧ lines = lines' := by
  induction lines using List.reverseRecOn generalizing lines' with
  | nil =>
    obtain rfl : lines' = [] := List.length_eq_zero_iff.mp hlength.symm
    exact ⟨by simpa using hsame, rfl⟩
  | append_singleton lines line ih =>
    obtain rfl | ⟨lines', line', rfl⟩ := List.eq_nil_or_concat lines'
    · simp at hlength
    · simp only [List.concat_eq_append, List.flatMap_append, List.flatMap_cons, List.flatMap_nil, List.append_nil,
        ← List.append_assoc] at hsame
      simp only [List.concat_eq_append, List.forall_mem_append, List.forall_mem_singleton] at hlines hlines'
      obtain ⟨hfront, hline⟩ := append_cons_inj_last hlines.2 hlines'.2 hsame
      obtain ⟨hfront, hinit⟩ := ih (by simpa using hlength) hlines.1 hlines'.1 hfront
      exact ⟨hfront, by rw [hinit, hline, List.concat_eq_append]⟩

/-- Each line has a separator before it, and no other if its bytes have none. -/
theorem count_lines (c : UInt8) (lines : List (List UInt8)) :
    lines.length ≤ (lines.flatMap (c :: ·)).count c ∧
      ((lines.flatMap (c :: ·)).count c = lines.length ↔ ∀ line ∈ lines, c ∉ line) := by
  induction lines with
  | nil => simp
  | cons line lines ih =>
    obtain ⟨hle, heq⟩ := ih
    rw [List.forall_mem_cons, ← List.count_eq_zero, ← heq, List.flatMap_cons, List.count_append, List.count_cons_self,
      List.length_cons]
    omega

/-- Lines without their separator are also read back from a text that may have
it in its lines, if both have as many lines. -/
theorem lines_inj (hlength : lines.length = lines'.length) (hlines : ∀ line ∈ lines, c ∉ line)
    (hsame : lines.flatMap (c :: ·) = lines'.flatMap (c :: ·)) : lines = lines' := by
  have hcount := (count_lines c lines).2.mpr hlines
  rw [hsame, hlength] at hcount
  have hlines' := (count_lines c lines').2.mp hcount
  have hnil : [] ++ lines.flatMap (c :: ·) = [] ++ lines'.flatMap (c :: ·) := hsame
  exact (append_lines_inj hlength hlines hlines' hnil).2

/-- The bytes between separators are bytes of the whole. -/
theorem mem_of_mem_splitOn {separator : UInt8} {part : List UInt8} (hpart : part ∈ text.splitOn separator)
    (hc : c ∈ part) : c ∈ text := by
  have hmem : ∀ parts : List (List UInt8), part ∈ parts → c ∈ [separator].intercalate parts := by
    intro parts hparts
    induction parts with
    | nil => cases hparts
    | cons first rest ih =>
      cases rest with
      | nil => simpa [List.mem_singleton.mp hparts] using hc
      | cons next rest =>
        rw [List.intercalate_cons_cons]
        rcases List.mem_cons.mp hparts with rfl | hrest
        · simp [hc]
        · exact List.mem_append_right _ (ih hrest)
  have hwhole : [separator].intercalate (text.splitOn separator) = text := List.intercalate_splitOn separator
  exact hwhole ▸ hmem _ hpart

theorem dropWhile_ne_append (hleft : c ∉ left) (right : List UInt8) :
    (left ++ c :: right).dropWhile (· ≠ c) = c :: right := by
  have hkept : ∀ b ∈ left, decide (b ≠ c) = true := fun b hb => decide_eq_true fun heq => hleft (heq ▸ hb)
  rw [List.dropWhile_append_of_pos hkept, List.dropWhile_cons_of_neg (by simp)]

theorem takeWhile_ne_self (htext : c ∉ text) : text.takeWhile (· ≠ c) = text := by
  rw [List.takeWhile_eq_self_iff]
  exact fun b hb => decide_eq_true fun heq => htext (heq ▸ hb)

theorem dropWhile_ne_self (htext : c ∉ text) : text.dropWhile (· ≠ c) = [] := by
  rw [List.dropWhile_eq_nil_iff]
  exact fun b hb => decide_eq_true fun heq => htext (heq ▸ hb)

section hex

/-- The lower case digit of a value below 16. -/
def hex_digit (nibble : UInt8) : UInt8 := if nibble < 10 then 48 + nibble else 87 + nibble

/-- The value of a digit in either case. -/
def hex_value (digit : UInt8) : Option UInt8 :=
  if 48 ≤ digit ∧ digit ≤ 57 then some (digit - 48)
  else if 97 ≤ digit ∧ digit ≤ 102 then some (digit - 87)
  else if 65 ≤ digit ∧ digit ≤ 70 then some (digit - 55)
  else none

def hex_byte (byte : UInt8) : List UInt8 := [hex_digit (byte >>> 4), hex_digit (byte &&& 15)]

def hex_encode (bytes : List UInt8) : List UInt8 := bytes.flatMap hex_byte

/-- What holds of every byte, by looking at all of them. -/
theorem forall_byte {p : UInt8 → Prop} (h : ∀ n : Fin 256, p (UInt8.ofNat n.val)) (byte : UInt8) : p byte := by
  simpa using h ⟨byte.toNat, byte.toNat_lt⟩

theorem hex_value_digits : ∀ byte : UInt8,
    hex_value (hex_digit (byte >>> 4)) = some (byte >>> 4) ∧ hex_value (hex_digit (byte &&& 15)) = some (byte &&& 15) ∧
      ((byte >>> 4) <<< 4) ||| (byte &&& 15) = byte :=
  forall_byte (by decide +kernel)

def hex_decode : List UInt8 → Option (List UInt8)
  | [] => some []
  | hi :: lo :: rest =>
    match hex_value hi, hex_value lo with
    | some hi, some lo => (hex_decode rest).map ((hi <<< 4 ||| lo) :: ·)
    | _, _ => none
  | _ => none

@[simp] theorem hex_decode_encode (bytes : List UInt8) : hex_decode (hex_encode bytes) = some bytes := by
  induction bytes with
  | nil => rfl
  | cons byte bytes ih =>
    obtain ⟨hhi, hlo, hbyte⟩ := hex_value_digits byte
    rw [hex_encode, List.flatMap_cons, ← hex_encode]
    simp [hex_byte, hex_decode, hhi, hlo, ih, hbyte]

theorem hex_encode_injective : Function.Injective hex_encode := by
  intro left right hsame
  have hread := congrArg hex_decode hsame
  simpa using hread

theorem length_of_hex_decode {text bytes : List UInt8} (hdecode : hex_decode text = some bytes) :
    text.length = 2 * bytes.length := by
  fun_induction hex_decode text generalizing bytes with
  | case1 =>
    cases hdecode
    rfl
  | case2 hi lo rest _ _ _ _ ih =>
    obtain ⟨tail, htail, rfl⟩ := Option.map_eq_some_iff.mp hdecode
    have hlength := ih htail
    simp only [List.length_cons]
    omega
  | case3 => cases hdecode
  | case4 => cases hdecode

@[simp] theorem length_hex_encode (bytes : List UInt8) : (hex_encode bytes).length = 2 * bytes.length := by
  simp [hex_encode, hex_byte, List.length_flatMap, List.map_const', Nat.mul_comm]

@[simp] theorem lt_not_mem_hex_encode (bytes : List UInt8) : 60 ∉ hex_encode bytes := by
  have hbyte : ∀ byte, 60 ∉ hex_byte byte := forall_byte (by decide +kernel)
  rw [hex_encode, List.mem_flatMap]
  rintro ⟨byte, _, hlt⟩
  exact hbyte byte hlt

end hex

section escape

/-- A byte in the text of a document. -/
def escape_byte (byte : UInt8) : List UInt8 :=
  if byte = 38 then ascii "&amp;"
  else if byte = 60 then ascii "&lt;"
  else if byte = 62 then ascii "&gt;"
  else if byte = 34 then ascii "&quot;"
  else if byte = 39 then ascii "&apos;"
  else [byte]

def escape (bytes : List UInt8) : List UInt8 := bytes.flatMap escape_byte

/-- The byte that an entity stands for. -/
def entity (name : List UInt8) : UInt8 :=
  if name = ascii "amp" then 38
  else if name = ascii "lt" then 60
  else if name = ascii "gt" then 62
  else if name = ascii "quot" then 34
  else 39

/-- Reads escaped text, with the part of an entity's name that has been read. -/
def unescape_from : Option (List UInt8) → List UInt8 → List UInt8
  | _, [] => []
  | none, byte :: rest => if byte = 38 then unescape_from (some []) rest else byte :: unescape_from none rest
  | some name, byte :: rest =>
    if byte = 59 then entity name :: unescape_from none rest else unescape_from (some (name ++ [byte])) rest

def unescape (text : List UInt8) : List UInt8 := unescape_from none text

theorem unescape_from_escape_byte (byte : UInt8) (rest : List UInt8) :
    unescape_from none (escape_byte byte ++ rest) = byte :: unescape_from none rest := by
  unfold escape_byte
  split_ifs with hamp hlt hgt hquot hapos
  · subst hamp; rfl
  · subst hlt; rfl
  · subst hgt; rfl
  · subst hquot; rfl
  · subst hapos; rfl
  · simp [unescape_from, hamp]

@[simp] theorem unescape_escape (bytes : List UInt8) : unescape (escape bytes) = bytes := by
  induction bytes with
  | nil => rfl
  | cons byte bytes ih =>
    rw [escape, List.flatMap_cons, unescape, unescape_from_escape_byte]
    exact congrArg (byte :: ·) ih

theorem escape_byte_plain : ∀ byte, 60 ∉ escape_byte byte ∧ (escape_byte byte).length ≤ 6 :=
  forall_byte (by decide +kernel)

@[simp] theorem lt_not_mem_escape (bytes : List UInt8) : 60 ∉ escape bytes := by
  rw [escape, List.mem_flatMap]
  rintro ⟨byte, _, hbyte⟩
  exact (escape_byte_plain byte).1 hbyte

theorem length_escape_le (bytes : List UInt8) : (escape bytes).length ≤ 6 * bytes.length := by
  induction bytes with
  | nil => simp [escape]
  | cons byte bytes ih =>
    have hbyte := (escape_byte_plain byte).2
    rw [escape] at ih ⊢
    rw [List.flatMap_cons, List.length_append, List.length_cons]
    omega

end escape

section markup

/-- A tag of a document with the text up to the next tag. -/
structure Element where
  tag : List UInt8
  text : List UInt8

/-- The tag ends where it seems to end, and so does the text. -/
structure Element.Plain (element : Element) : Prop where
  tag_lt : 60 ∉ element.tag
  tag_gt : 62 ∉ element.tag
  text_lt : 60 ∉ element.text

/-- An element behind its opening bracket. -/
def Element.body (element : Element) : List UInt8 := element.tag ++ 62 :: element.text

def render (elements : List Element) : List UInt8 := elements.flatMap fun element => 60 :: element.body

/-- The text of an element, if it has the given tag. -/
def tagged (tag piece : List UInt8) : Option (List UInt8) :=
  if (tag ++ [62]).isPrefixOf piece then some (unescape (piece.drop (tag.length + 1))) else none

def texts (tag document : List UInt8) : List (List UInt8) := (document.splitOn 60).filterMap (tagged tag)

variable {tag : List UInt8} {elements : List Element}

theorem append_gt_prefix_iff {other text : List UInt8} (htag : 62 ∉ tag) (hother : 62 ∉ other) :
    tag ++ [62] <+: other ++ 62 :: text ↔ other = tag := by
  constructor
  · rintro ⟨rest, hsame⟩
    exact (append_cons_inj htag hother (by simpa using hsame)).1.symm
  · rintro rfl
    exact ⟨text, by simp⟩

theorem tagged_body (htag : 62 ∉ tag) {element : Element} (hplain : element.Plain) :
    tagged tag element.body = if element.tag = tag then some (unescape element.text) else none := by
  have hiff : (tag ++ [62]).isPrefixOf element.body = true ↔ element.tag = tag := by
    rw [List.isPrefixOf_iff_prefix]
    exact append_gt_prefix_iff htag hplain.tag_gt
  unfold tagged
  by_cases heq : element.tag = tag
  · have hdrop : element.body.drop (tag.length + 1) = element.text := by
      rw [← heq, Element.body, ← List.drop_drop, List.drop_left]
      rfl
    rw [if_pos (hiff.mpr heq), if_pos heq, hdrop]
  · rw [if_neg (hiff.not.mpr heq), if_neg heq]

theorem splitOn_append_render (hplain : ∀ element ∈ elements, element.Plain) {piece : List UInt8}
    (hpiece : 60 ∉ piece) : (piece ++ render elements).splitOn 60 = piece :: elements.map Element.body := by
  induction elements generalizing piece with
  | nil => simpa [render] using List.splitOn_eq_singleton hpiece
  | cons element elements ih =>
    have hfirst := hplain element List.mem_cons_self
    have hbody : 60 ∉ element.body := by simp [Element.body, hfirst.tag_lt, hfirst.text_lt]
    have hrest := ih (fun element helement => hplain element (List.mem_cons_of_mem _ helement)) hbody
    have hsplit : render (element :: elements) = 60 :: (element.body ++ render elements) := by simp [render]
    rw [hsplit, List.splitOn_append_cons_self_of_not_mem hpiece, hrest, List.map_cons]

theorem texts_render (htag : 62 ∉ tag) (hplain : ∀ element ∈ elements, element.Plain) :
    texts tag (render elements) = (elements.filter (·.tag = tag)).map fun element => unescape element.text := by
  have hnil : tagged tag [] = none := by simp [tagged]
  have hsplit := splitOn_append_render hplain (List.not_mem_nil (a := 60))
  rw [List.nil_append] at hsplit
  rw [texts, hsplit, List.filterMap_cons_none hnil, List.filterMap_map]
  refine (List.filterMap_congr fun element helement => tagged_body htag (hplain element helement)).trans ?_
  clear hsplit hplain
  induction elements with
  | nil => rfl
  | cons element elements ih => by_cases heq : element.tag = tag <;> simp [heq, ih]

/-- The tags are plain if no bracket is among their bytes. -/
theorem plain_of_tags
    (htags : (elements.all fun element => !element.tag.contains 60 && !element.tag.contains 62) = true)
    (htexts : ∀ element ∈ elements, 60 ∉ element.text) : ∀ element ∈ elements, element.Plain := by
  intro element helement
  have htag := List.all_eq_true.mp htags element helement
  simp only [Bool.and_eq_true, Bool.not_eq_true', List.contains_eq_mem, decide_eq_false_iff_not] at htag
  exact ⟨htag.1, htag.2, htexts element helement⟩

theorem length_render (elements : List Element) :
    (render elements).length =
      (elements.map fun element => element.tag.length + 2).sum + (elements.map fun element => element.text.length).sum := by
  induction elements with
  | nil => rfl
  | cons element elements ih =>
    have hcons : render (element :: elements) = 60 :: (element.body ++ render elements) := by simp [render]
    rw [hcons, List.length_cons, List.length_append, ih, List.map_cons, List.map_cons, List.sum_cons, List.sum_cons]
    simp only [Element.body, List.length_append, List.length_cons]
    omega

@[simp] theorem render_append (elements later : List Element) : render (elements ++ later) = render elements ++ render later :=
  List.flatMap_append

end markup

end Text
