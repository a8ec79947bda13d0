import TurboP2P.SigV4.Canonical

open Text (ascii)
open Scan (is_space)
open turbop2p.m3_gateway (CString c_string ascii_lower)
open Percent

namespace turbop2p.m3_gateway_sigv4

section order

theorem query_pair_le_total (l r : QueryPair) : query_pair_le l r ∨ query_pair_le r l := by
  rcases List.le_total l.name r.name with hle | hle
  · rcases List.le_iff_lt_or_eq.mp hle with hlt | heq
    · exact .inl (.inl hlt)
    · rcases List.le_total l.value r.value with hvalue | hvalue
      · exact .inl (.inr ⟨heq, hvalue⟩)
      · exact .inr (.inr ⟨heq.symm, hvalue⟩)
  · rcases List.le_iff_lt_or_eq.mp hle with hlt | heq
    · exact .inr (.inl hlt)
    · rcases List.le_total l.value r.value with hvalue | hvalue
      · exact .inl (.inr ⟨heq.symm, hvalue⟩)
      · exact .inr (.inr ⟨heq, hvalue⟩)

variable {a b : QueryPair}

theorem query_pair_le_trans {c : QueryPair} (hab : query_pair_le a b) (hbc : query_pair_le b c) :
    query_pair_le a c := by
  rcases hab with hab | ⟨hab, hab'⟩ <;> rcases hbc with hbc | ⟨hbc, hbc'⟩
  · exact .inl (List.lt_trans hab hbc)
  · exact .inl (hbc ▸ hab)
  · exact .inl (hab ▸ hbc)
  · exact .inr ⟨hab.trans hbc, List.le_trans hab' hbc'⟩

theorem query_pair_le_antisymm (hab : query_pair_le a b) (hba : query_pair_le b a) : a = b := by
  rcases hab with hab | ⟨hab, hab'⟩ <;> rcases hba with hba | ⟨hba, hba'⟩
  · exact absurd hba (List.lt_asymm hab)
  · exact absurd hab (hba ▸ List.lt_irrefl _)
  · exact absurd hba (hab ▸ List.lt_irrefl _)
  · exact congrArg₂ QueryPair.mk hab (List.le_antisymm hab' hba')

instance : Std.Total query_pair_le := ⟨query_pair_le_total⟩

instance : IsTrans QueryPair query_pair_le := ⟨fun _ _ _ => query_pair_le_trans⟩

/-- Two lists in order with the same members are the same list. -/
theorem eq_of_sorted {left right : List QueryPair} (hleft : left.Pairwise query_pair_le)
    (hright : right.Pairwise query_pair_le) (hperm : left.Perm right) : left = right :=
  hperm.eq_of_pairwise (fun _ _ _ _ => query_pair_le_antisymm) hleft hright

end order

section query

/-- The decoded parameters of a query, each byte of them. -/
def decode_segments : List (List UInt8) → Option (List QueryPair)
  | [] => some []
  | segment :: rest => do
    let name ← Percent.decode (segment_name segment)
    let value ← Percent.decode (segment_value segment)
    let pairs ← decode_segments rest
    some (⟨name, value⟩ :: pairs)

def decoded_query (raw : Option CString) : Option (List QueryPair) :=
  decode_segments (segments 38 (raw.elim [] (·.val)))

/-- A parameter as C strings. -/
def QueryPair.truncated (pair : QueryPair) : QueryPair := ⟨c_string pair.name, c_string pair.value⟩

def QueryPair.encoded (pair : QueryPair) : QueryPair :=
  ⟨Percent.encode (unreserved true) pair.name, Percent.encode (unreserved true) pair.value⟩

def QueryPair.plain (pair : QueryPair) : List UInt8 := pair.name ++ 61 :: pair.value

theorem text_eq_plain (pair : QueryPair) : pair.text = pair.encoded.plain := rfl

variable {bytes : List UInt8} {cap : Nat}

theorem percent_decode_eq_some {out : List UInt8} (hdecode : percent_decode cap bytes = some out) :
    decode bytes = some out :=
  (Option.filter_eq_some_iff.mp hdecode).1

variable {pairs left right : List QueryPair} {exclude_name : Option CString} {pair : QueryPair}

/-- The bytes of some pairs, with one more for each pair. -/
def weight (pairs : List QueryPair) : Nat := (pairs.map fun pair => pair.name.length + pair.value.length + 1).sum

@[simp] theorem weight_cons (pair : QueryPair) (pairs : List QueryPair) :
    weight (pair :: pairs) = pair.name.length + pair.value.length + 1 + weight pairs := by
  simp [weight]

theorem weight_perm (hperm : left.Perm right) : weight left = weight right :=
  (hperm.map _).sum_eq

/-- The pairs that are parsed are the decoded ones up to their first zeros, and
with two terminators for each pair they fit in the buffer. -/
theorem query_parse_eq_some {o count : Nat} {parts : List (List UInt8)} (ho : o < QUERY_BUF) (hcount : count ≤ MAX_PAIRS)
    (hparse : query_parse o count parts = some pairs) :
    (∃ decoded, decode_segments parts = some decoded ∧ pairs = decoded.map QueryPair.truncated) ∧
      o + weight pairs + pairs.length < QUERY_BUF ∧ count + pairs.length ≤ MAX_PAIRS := by
  induction parts generalizing o count pairs with
  | nil =>
    cases hparse
    exact ⟨⟨[], rfl, rfl⟩, ho, hcount⟩
  | cons segment rest ih =>
    obtain ⟨hmore, hparse⟩ := guard_passed hparse
    cases hname : percent_decode (QUERY_BUF - o) (segment_name segment) with
    | none => simp [hname] at hparse
    | some name =>
      simp only [hname] at hparse
      obtain ⟨_, hparse⟩ := guard_passed hparse
      cases hvalue : percent_decode (QUERY_BUF - (o + (c_string name).length + 1)) (segment_value segment) with
      | none => simp [hvalue] at hparse
      | some value =>
        simp only [hvalue] at hparse
        obtain ⟨hroom, hparse⟩ := guard_passed hparse
        obtain ⟨tail, htail, rfl⟩ := Option.map_eq_some_iff.mp hparse
        obtain ⟨⟨decoded, hdecoded, rfl⟩, hfits, hnumber⟩ := ih (Nat.lt_of_not_le hroom) (by omega) htail
        refine ⟨⟨⟨name, value⟩ :: decoded, ?_, rfl⟩, ?_, ?_⟩
        · simp [decode_segments, percent_decode_eq_some hname, percent_decode_eq_some hvalue, hdecoded]
        · simp only [weight_cons, List.length_cons]
          omega
        · simp only [List.length_cons]
          omega

/-- The parameters that are emitted, in their order. -/
def emitted (exclude_name : Option CString) (parameters : List QueryPair) : List QueryPair :=
  kept exclude_name ((parameters.map QueryPair.truncated).insertionSort query_pair_le)

theorem segments_nil (separator : UInt8) : segments separator [] = [] := rfl

/-- The canonical query has the emitted parameters, which fit in the buffers. -/
theorem canonical_query_build_eq_some {raw : Option CString} {query : List UInt8}
    (hquery : canonical_query_build raw exclude_name cap = some query) :
    ∃ parameters, decoded_query raw = some parameters ∧
      query = joined ((emitted exclude_name parameters).map QueryPair.text) ∧
      (parameters ≠ [] → weight (parameters.map QueryPair.truncated) + parameters.length < QUERY_BUF ∧
        parameters.length ≤ MAX_PAIRS ∧ query.length < cap) := by
  cases raw with
  | none =>
    cases hquery
    exact ⟨[], rfl, rfl, by simp⟩
  | some raw =>
    unfold canonical_query_build at hquery
    by_cases hempty : raw.val = []
    · simp only [hempty, if_true, Option.some.injEq] at hquery
      exact ⟨[], by simp [decoded_query, hempty, segments_nil, decode_segments], hquery.symm, by simp⟩
    · simp only [hempty, if_false] at hquery
      cases hparse : query_parse 0 0 (segments 38 raw.val) with
      | none => simp [hparse] at hquery
      | some pairs =>
        simp only [hparse] at hquery
        obtain ⟨⟨decoded, hdecoded, rfl⟩, hroom, hcount⟩ := query_parse_eq_some (by decide) (by decide) hparse
        rw [List.length_map] at hroom hcount
        split_ifs at hquery with hfits
        obtain rfl := Option.some.inj hquery
        exact ⟨decoded, hdecoded, rfl, fun _ => ⟨by omega, by omega, hfits⟩⟩

theorem escaped_bytes (byte : UInt8) : 10 ∉ escaped byte ∧ 38 ∉ escaped byte ∧ 61 ∉ escaped byte :=
  Text.forall_byte (p := fun byte => 10 ∉ escaped byte ∧ 38 ∉ escaped byte ∧
    61 ∉ escaped byte) (by decide +kernel) byte

/-- A pair that can stand in a canonical query: none of its bytes separates
names, values, parameters or lines. -/
structure QueryPair.Clean (pair : QueryPair) : Prop where
  amp_name : 38 ∉ pair.name
  amp_value : 38 ∉ pair.value
  equals_name : 61 ∉ pair.name
  lf_name : 10 ∉ pair.name
  lf_value : 10 ∉ pair.value

theorem encoded_clean (pair : QueryPair) : pair.encoded.Clean := by
  have hamp (bytes : List UInt8) : 38 ∉ encode (unreserved true) bytes :=
    not_mem_encode (by decide) (fun byte => (escaped_bytes byte).2.1) bytes
  have hequals (bytes : List UInt8) : 61 ∉ encode (unreserved true) bytes :=
    not_mem_encode (by decide) (fun byte => (escaped_bytes byte).2.2) bytes
  have hlf (bytes : List UInt8) : 10 ∉ encode (unreserved true) bytes :=
    not_mem_encode (by decide) (fun byte => (escaped_bytes byte).1) bytes
  exact ⟨hamp _, hamp _, hequals _, hlf _, hlf _⟩

theorem encoded_injective : Function.Injective QueryPair.encoded := by
  rintro ⟨name, value⟩ ⟨name', value'⟩ hsame
  obtain ⟨hname, hvalue⟩ := QueryPair.mk.inj hsame
  have hinjective : Function.Injective (encode (unreserved true)) := encode_injective (by decide)
  exact congrArg₂ QueryPair.mk (hinjective hname) (hinjective hvalue)

/-- The parameter of a segment, before it is decoded. -/
def segment_pair (segment : List UInt8) : QueryPair := ⟨segment_name segment, segment_value segment⟩

/-- The first equals sign of a parameter ends its name. -/
theorem segment_pair_plain (hname : 61 ∉ pair.name) : segment_pair pair.plain = pair := by
  rw [segment_pair, segment_name, segment_value, QueryPair.plain, Text.takeWhile_ne_append hname,
    Text.dropWhile_ne_append hname, List.drop_one, List.tail_cons]

theorem joined_eq_nil_iff : joined (pairs.map QueryPair.plain) = [] ↔ pairs = [] := by
  constructor
  · intro hnil
    cases pairs with
    | nil => rfl
    | cons pair rest =>
      have hmem : 61 ∈ joined ((pair :: rest).map QueryPair.plain) := by
        cases rest <;> simp [joined, QueryPair.plain]
      rw [hnil] at hmem
      cases hmem
  · rintro rfl
    rfl

/-- The pairs that are joined can be read back. -/
theorem eq_of_joined (hleft : ∀ pair ∈ left, pair.Clean) (hright : ∀ pair ∈ right, pair.Clean)
    (hsame : joined (left.map QueryPair.plain) = joined (right.map QueryPair.plain)) : left = right := by
  by_cases hnil : left = []
  · rw [hnil] at hsame ⊢
    exact (joined_eq_nil_iff.mp hsame.symm).symm
  · have hnil' : right ≠ [] := by
      rintro rfl
      exact hnil (joined_eq_nil_iff.mp hsame)
    have hplain {pairs : List QueryPair} (hclean : ∀ pair ∈ pairs, pair.Clean) :
        ∀ text ∈ pairs.map QueryPair.plain, 38 ∉ text := by
      intro text htext
      obtain ⟨pair, hpair, rfl⟩ := List.mem_map.mp htext
      simp [QueryPair.plain, (hclean pair hpair).amp_name, (hclean pair hpair).amp_value]
    have hsplit := congrArg (List.splitOn 38) hsame
    rw [joined, joined, List.splitOn_intercalate 38 (hplain hleft) (by simpa using hnil),
      List.splitOn_intercalate 38 (hplain hright) (by simpa using hnil')] at hsplit
    have hread {pairs : List QueryPair} (hclean : ∀ pair ∈ pairs, pair.Clean) :
        (pairs.map QueryPair.plain).map segment_pair = pairs := by
      rw [List.map_map]
      exact (List.map_congr_left fun pair hpair => segment_pair_plain (hclean pair hpair).equals_name).trans
        (List.map_id pairs)
    rw [← hread hleft, hsplit, hread hright]

/-- Joining parameters brings in ampersands and equals signs only. -/
theorem not_mem_joined {c : UInt8} (hc : c ≠ 38 ∧ c ≠ 61) (hpairs : ∀ pair ∈ pairs, c ∉ pair.name ∧ c ∉ pair.value) :
    c ∉ joined (pairs.map QueryPair.plain) := by
  induction pairs with
  | nil => simp [joined]
  | cons pair rest ih =>
    obtain ⟨⟨hname, hvalue⟩, hrest⟩ := List.forall_mem_cons.mp hpairs
    have hrest := ih hrest
    cases rest with
    | nil => simp [joined, QueryPair.plain, hname, hvalue, hc]
    | cons next rest =>
      simp only [joined, List.map_cons, List.intercalate_cons_cons, List.mem_append] at hrest ⊢
      simp [QueryPair.plain, hname, hvalue, hc]
      simpa [QueryPair.plain] using hrest

theorem lf_not_mem_joined (hclean : ∀ pair ∈ pairs, pair.Clean) : 10 ∉ joined (pairs.map QueryPair.plain) :=
  not_mem_joined (by decide) fun pair hpair => ⟨(hclean pair hpair).lf_name, (hclean pair hpair).lf_value⟩

theorem map_text (pairs : List QueryPair) :
    pairs.map QueryPair.text = (pairs.map QueryPair.encoded).map QueryPair.plain := by
  simp [text_eq_plain]

theorem forall_encoded_clean (pairs : List QueryPair) : ∀ pair ∈ pairs.map QueryPair.encoded, pair.Clean := by
  intro pair hpair
  obtain ⟨source, _, rfl⟩ := List.mem_map.mp hpair
  exact encoded_clean source

/-- The canonical query as the signature protocol defines it: parameters
encoded and then sorted. -/
def aws_query (parameters : List QueryPair) : List UInt8 :=
  joined (((parameters.map QueryPair.encoded).insertionSort query_pair_le).map QueryPair.plain)

theorem forall_sorted_clean (parameters : List QueryPair) :
    ∀ pair ∈ (parameters.map QueryPair.encoded).insertionSort query_pair_le, pair.Clean := by
  intro pair hpair
  rw [List.mem_insertionSort] at hpair
  exact forall_encoded_clean parameters pair hpair

/-- The canonical query determines the parameters in it. -/
theorem eq_of_joined_text (hsame : joined (left.map QueryPair.text) = joined (right.map QueryPair.text)) :
    left = right := by
  rw [map_text, map_text] at hsame
  exact List.map_injective_iff.mpr encoded_injective
    (eq_of_joined (forall_encoded_clean left) (forall_encoded_clean right) hsame)

theorem length_c_string_le (bytes : List UInt8) : (c_string bytes).length ≤ bytes.length :=
  (List.takeWhile_prefix _).length_le

theorem c_string_eq_self (hlength : bytes.length ≤ (c_string bytes).length) : c_string bytes = bytes :=
  (List.takeWhile_prefix _).eq_of_length_le hlength

theorem c_string_val (text : CString) : c_string text.val = text.val :=
  Text.takeWhile_ne_self text.2

theorem kept_cons_excluded (hexcluded : exclude_name.map (·.val) = some pair.name) (pairs : List QueryPair) :
    kept exclude_name (pair :: pairs) = kept exclude_name pairs :=
  List.filter_cons_of_neg (by simp [hexcluded])

theorem kept_cons (hkept : exclude_name.map (·.val) ≠ some pair.name) (pairs : List QueryPair) :
    kept exclude_name (pair :: pairs) = pair :: kept exclude_name pairs :=
  List.filter_cons_of_pos (by simpa using hkept)

/-- A parameter with the excluded name keeps it as a C string. -/
theorem truncated_excluded (hexcluded : exclude_name.map (·.val) = some pair.name) :
    exclude_name.map (·.val) = some pair.truncated.name := by
  obtain ⟨name, rfl, hname⟩ := Option.map_eq_some_iff.mp hexcluded
  have hself : c_string pair.name = pair.name := by
    rw [← hname]
    exact c_string_val name
  simp [QueryPair.truncated, hself, hname]

/-- Truncation takes bytes away from the kept parameters, unless none of them
has a zero. -/
theorem weight_kept_truncated (exclude_name : Option CString) (parameters : List QueryPair) :
    weight (kept exclude_name (parameters.map QueryPair.truncated)) ≤ weight (kept exclude_name parameters) ∧
      (weight (kept exclude_name parameters) ≤ weight (kept exclude_name (parameters.map QueryPair.truncated)) →
        ∀ pair ∈ kept exclude_name parameters, pair.truncated = pair) := by
  induction parameters with
  | nil => simp [kept]
  | cons pair rest ih =>
    obtain ⟨hle, hsame⟩ := ih
    have hname := length_c_string_le pair.name
    have hvalue := length_c_string_le pair.value
    rw [List.map_cons]
    by_cases hexcluded : exclude_name.map (·.val) = some pair.name
    · rw [kept_cons_excluded hexcluded, kept_cons_excluded (truncated_excluded hexcluded)]
      exact ⟨hle, hsame⟩
    · rw [kept_cons hexcluded, weight_cons]
      by_cases htruncated : exclude_name.map (·.val) = some pair.truncated.name
      · rw [kept_cons_excluded htruncated]
        exact ⟨by omega, fun hge => absurd hge (by omega)⟩
      · rw [kept_cons htruncated, weight_cons]
        simp only [QueryPair.truncated]
        refine ⟨by omega, fun hge => ?_⟩
        have hpair : pair.truncated = pair :=
          congrArg₂ QueryPair.mk (c_string_eq_self (by omega)) (c_string_eq_self (by omega))
        exact List.forall_mem_cons.mpr ⟨hpair, hsame (by omega)⟩

theorem kept_perm (hperm : left.Perm right) (exclude_name : Option CString) :
    (kept exclude_name left).Perm (kept exclude_name right) :=
  hperm.filter _

theorem emitted_perm (exclude_name : Option CString) (parameters : List QueryPair) :
    (emitted exclude_name parameters).Perm (kept exclude_name (parameters.map QueryPair.truncated)) :=
  kept_perm (List.perm_insertionSort _ _) exclude_name

theorem emitted_sorted (exclude_name : Option CString) (parameters : List QueryPair) :
    (emitted exclude_name parameters).Pairwise query_pair_le :=
  (List.pairwise_insertionSort query_pair_le _).filter _

section

variable {parameters : List QueryPair} (hplain : ∀ pair ∈ kept exclude_name parameters, pair.truncated = pair)

include hplain

theorem kept_truncated_eq : kept exclude_name (parameters.map QueryPair.truncated) = kept exclude_name parameters := by
  induction parameters with
  | nil => rfl
  | cons pair rest ih =>
    rw [List.map_cons]
    by_cases hexcluded : exclude_name.map (·.val) = some pair.name
    · rw [kept_cons_excluded hexcluded] at hplain ⊢
      rw [kept_cons_excluded (truncated_excluded hexcluded), ih hplain]
    · rw [kept_cons hexcluded] at hplain ⊢
      obtain ⟨hpair, hrest⟩ := List.forall_mem_cons.mp hplain
      rw [hpair, kept_cons hexcluded, ih hrest]

/-- Without zeros in the parameters, those that are emitted are the kept ones
in the order of their decoded bytes. -/
theorem emitted_eq_sort :
    emitted exclude_name parameters = (kept exclude_name parameters).insertionSort query_pair_le := by
  apply eq_of_sorted (emitted_sorted exclude_name parameters) (List.pairwise_insertionSort _ _)
  have hperm := emitted_perm exclude_name parameters
  rw [kept_truncated_eq hplain] at hperm
  exact hperm.trans (List.perm_insertionSort _ _).symm

end

/-- The canonical query is the protocol's exactly when no kept parameter has a
decoded zero and the order of the decoded parameters is that of the encoded
ones. -/
theorem joined_emitted_eq_aws_iff (exclude_name : Option CString) (parameters : List QueryPair) :
    joined ((emitted exclude_name parameters).map QueryPair.text) = aws_query (kept exclude_name parameters) ↔
      (∀ pair ∈ kept exclude_name parameters, pair.truncated = pair) ∧
        (((kept exclude_name parameters).insertionSort query_pair_le).map QueryPair.encoded).Pairwise
          query_pair_le := by
  have hsorted := List.perm_insertionSort query_pair_le ((kept exclude_name parameters).map QueryPair.encoded)
  constructor
  · intro hsame
    rw [map_text, aws_query] at hsame
    have hencoded := eq_of_joined (forall_encoded_clean _) (forall_sorted_clean _) hsame
    have hperm : (emitted exclude_name parameters).Perm (kept exclude_name parameters) := by
      rw [← List.map_perm_map_iff encoded_injective, hencoded]
      exact hsorted
    have hweight := weight_perm ((emitted_perm exclude_name parameters).symm.trans hperm)
    have hplain := (weight_kept_truncated exclude_name parameters).2 hweight.ge
    refine ⟨hplain, ?_⟩
    rw [← emitted_eq_sort hplain, hencoded]
    exact List.pairwise_insertionSort _ _
  · rintro ⟨hplain, horder⟩
    rw [emitted_eq_sort hplain, map_text, aws_query]
    congr 2
    apply eq_of_sorted horder (List.pairwise_insertionSort _ _)
    exact ((List.perm_insertionSort _ _).map _).trans hsorted.symm

end query

section headers

/-- The words of a header value, joined by single blanks. -/
def trimmed (value : List UInt8) : List UInt8 := [32].intercalate ((value.splitOnP is_space).filter (· ≠ []))

/-- Words, each after a blank. -/
def blank_words (words : List (List UInt8)) : List UInt8 :=
  if words = [] then [] else 32 :: [32].intercalate words

theorem blank_words_cons (word : List UInt8) (words : List (List UInt8)) :
    blank_words (word :: words) = 32 :: [32].intercalate (word :: words) :=
  if_neg (by simp)

theorem intercalate_blank_words (word : List UInt8) (words : List (List UInt8)) :
    [32].intercalate (word :: words) = word ++ blank_words words := by
  cases words with
  | nil => simp [blank_words]
  | cons next words => simp [blank_words]

/-- After a blank the loop writes the words that are left, and within a word it
writes the rest of the word first. -/
theorem squeeze_words (value : List UInt8) :
    squeeze true value = blank_words ((value.splitOnP is_space).filter (· ≠ [])) ∧
      ∀ word rest, value.splitOnP is_space = word :: rest →
        squeeze false value = word ++ blank_words (rest.filter (· ≠ [])) := by
  induction value with
  | nil =>
    refine ⟨by simp [squeeze, blank_words], ?_⟩
    intro word rest hsplit
    obtain ⟨rfl, rfl⟩ := List.cons.inj hsplit
    simp [squeeze, blank_words]
  | cons c value ih =>
    obtain ⟨hpending, hword⟩ := ih
    rw [List.splitOnP_cons_eq_if_modifyHead]
    by_cases hc : is_space c = true
    · simp only [squeeze, hc, if_true]
      refine ⟨by simp [hpending], ?_⟩
      intro word rest hsplit
      obtain ⟨rfl, rfl⟩ := List.cons.inj hsplit
      simp [hpending]
    · cases hsplit : value.splitOnP is_space with
      | nil => simp at hsplit
      | cons first rest =>
        have hfirst := hword first rest hsplit
        simp only [squeeze, hc, List.modifyHead_cons, Bool.false_eq_true, if_false, if_true]
        constructor
        · rw [hfirst, List.filter_cons_of_pos (by simp), blank_words_cons, intercalate_blank_words]
          rfl
        · intro word rest' hsame
          obtain ⟨rfl, rfl⟩ := List.cons.inj hsame
          simp [hfirst]

/-- A header value is normalised to its words. -/
theorem normalized_eq_trimmed (value : List UInt8) : normalized value = trimmed value := by
  unfold normalized trimmed
  induction value with
  | nil => rfl
  | cons c value ih =>
    by_cases hc : is_space c = true
    · rw [List.dropWhile_cons_of_pos hc, ih, List.splitOnP_cons_eq_if_modifyHead, if_pos hc,
        List.filter_cons_of_neg (by simp)]
    · rw [List.dropWhile_cons_of_neg hc]
      cases hsplit : (c :: value).splitOnP is_space with
      | nil => simp at hsplit
      | cons word rest =>
        have hword : word ≠ [] := by
          rintro rfl
          rw [List.splitOnP_cons_eq_if_modifyHead, if_neg hc] at hsplit
          cases htail : value.splitOnP is_space <;> simp [htail] at hsplit
        rw [(squeeze_words (c :: value)).2 word rest hsplit, List.filter_cons_of_pos (by simpa using hword),
          intercalate_blank_words]

theorem squeeze_no_lf (pending_space : Bool) (value : List UInt8) : 10 ∉ squeeze pending_space value := by
  induction value generalizing pending_space with
  | nil => simp [squeeze]
  | cons c value ih =>
    unfold squeeze
    split_ifs with hc hpending
    · exact ih true
    · have hne : (10 : UInt8) ≠ c := by
        rintro rfl
        exact hc (by decide)
      simp [hne, ih false]
    · have hne : (10 : UInt8) ≠ c := by
        rintro rfl
        exact hc (by decide)
      simp [hne, ih false]

theorem lf_not_mem_trimmed (value : List UInt8) : 10 ∉ trimmed value := by
  rw [← normalized_eq_trimmed]
  exact squeeze_no_lf false _

/-- The signed headers of a request with their values. -/
def signed_values (lookup : Lookup) : List (List UInt8) → Option (List (List UInt8 × List UInt8))
  | [] => some []
  | name :: rest => do
    let value ← lookup (name.map ascii_lower)
    let headers ← signed_values lookup rest
    some ((name, value.val) :: headers)

/-- A canonical header as the signature protocol defines it. -/
def aws_header (header : List UInt8 × List UInt8) : List UInt8 := header_line header.1 (trimmed header.2)

theorem build_canonical_headers_eq_some {lookup : Lookup} {cap : Nat} {out text : List UInt8}
    {names : List (List UInt8)} (hbuild : build_canonical_headers lookup cap out names = some text) :
    ∃ headers, signed_values lookup names = some headers ∧ text = out ++ headers.flatMap aws_header := by
  induction names generalizing out with
  | nil =>
    cases hbuild
    exact ⟨[], rfl, by simp⟩
  | cons name rest ih =>
    obtain ⟨_, hbuild⟩ := guard_passed hbuild
    cases hlookup : lookup (name.map ascii_lower) with
    | none => simp [hlookup] at hbuild
    | some value =>
      simp only [hlookup, header_value_normalize] at hbuild
      split_ifs at hbuild
      obtain ⟨_, hbuild⟩ := guard_passed hbuild
      obtain ⟨headers, hheaders, rfl⟩ := ih hbuild
      refine ⟨(name, value.val) :: headers, by simp [signed_values, hlookup, hheaders], ?_⟩
      rw [List.flatMap_cons, aws_header, ← normalized_eq_trimmed, List.append_assoc]

end headers

section request

/-- The canonical request as the signature protocol defines it: method, URI,
query, headers and payload hash, with one empty line after the headers. -/
def aws_canonical_request (method uri : List UInt8) (parameters : List QueryPair)
    (headers : List (List UInt8 × List UInt8)) (signed_headers payload_hash : List UInt8) : List UInt8 :=
  method ++ 10 :: (Percent.encode (unreserved false) uri ++ 10 :: (aws_query parameters ++ 10 ::
    (headers.flatMap aws_header ++ 10 :: (signed_headers ++ 10 :: payload_hash))))

theorem uri_encode_eq_some {encode_slash : Bool} {cap : Nat} {bytes out : List UInt8}
    (hencode : uri_encode encode_slash cap bytes = some out) :
    out = encode (unreserved encode_slash) bytes ∧ out.length < cap := by
  unfold uri_encode at hencode
  dsimp only at hencode
  split_ifs at hencode with hfits
  cases hencode
  exact ⟨rfl, hfits⟩

variable {input : CanonicalInput} {text : List UInt8}

theorem canonical_request_eq_some_iff :
    canonical_request input = some text ↔
      ∃ uri query block payload_hash, uri_encode false 1024 input.canonical_uri.val = some uri ∧
        canonical_query_build input.raw_query input.exclude_query_name 2048 = some query ∧
        build_canonical_headers input.lookup 4096 [] (segments 59 input.signed_headers) = some block ∧
        input.signed_headers.length < 512 ∧ input.payload = some payload_hash ∧
        text = request_text input.method.val uri query block input.signed_headers payload_hash ∧
        text.length < 8192 := by
  unfold canonical_request
  simp only [Option.bind_eq_bind, Option.bind_eq_some_iff]
  constructor
  · rintro ⟨uri, huri, query, hquery, block, hblock, hhashed⟩
    obtain ⟨hsigned, hhashed⟩ := guard_passed hhashed
    obtain ⟨payload_hash, hpayload, hhashed⟩ := Option.bind_eq_some_iff.mp hhashed
    obtain ⟨hfits, hhashed⟩ := guard_passed hhashed
    cases hhashed
    exact ⟨uri, query, block, payload_hash, huri, hquery, hblock, Nat.lt_of_not_ge hsigned, hpayload, rfl,
      Nat.lt_of_not_ge hfits⟩
  · rintro ⟨uri, query, block, payload_hash, huri, hquery, hblock, hsigned, hpayload, rfl, hfits⟩
    refine ⟨uri, huri, query, hquery, block, hblock, ?_⟩
    rw [if_neg (Nat.not_le_of_gt hsigned), hpayload, Option.bind_some, if_neg (Nat.not_le_of_gt hfits)]

theorem canonical_request_eq_some (hhashed : canonical_request input = some text) :
    ∃ parameters headers payload_hash, decoded_query input.raw_query = some parameters ∧
      signed_values input.lookup (segments 59 input.signed_headers) = some headers ∧
      input.payload = some payload_hash ∧
      text = request_text input.method.val (encode (unreserved false) input.canonical_uri.val)
        (joined ((emitted input.exclude_query_name parameters).map QueryPair.text)) (headers.flatMap aws_header)
        input.signed_headers payload_hash := by
  obtain ⟨uri, query, block, payload_hash, huri, hquery, hblock, _, hpayload, htext, _⟩ :=
    canonical_request_eq_some_iff.mp hhashed
  obtain ⟨parameters, hparameters, rfl, _⟩ := canonical_query_build_eq_some hquery
  obtain ⟨headers, hheaders, rfl⟩ := build_canonical_headers_eq_some hblock
  rw [(uri_encode_eq_some huri).1] at htext
  exact ⟨parameters, headers, payload_hash, hparameters, hheaders, hpayload, htext⟩

theorem lf_not_mem_uri (uri : List UInt8) : 10 ∉ encode (unreserved false) uri :=
  not_mem_encode (by decide) (fun byte => (escaped_bytes byte).1) uri

theorem lf_not_mem_query (pairs : List QueryPair) : 10 ∉ joined (pairs.map QueryPair.text) := by
  rw [map_text]
  exact lf_not_mem_joined (forall_encoded_clean pairs)

theorem lf_not_mem_aws_query (parameters : List QueryPair) : 10 ∉ aws_query parameters :=
  lf_not_mem_joined (forall_sorted_clean parameters)

/-- What the verifier hashes is never the canonical request of the signature
protocol, since the empty line after the headers is missing. With this line
put in, it is that request exactly when no decoded parameter has a zero byte
and the order of the decoded parameters is the order of the encoded ones. -/
theorem hashed_request_lacks_line (input : CanonicalInput) (text : List UInt8)
    (hhashed : canonical_request input = some text) :
    ∃ parameters headers payload_hash query, decoded_query input.raw_query = some parameters ∧
      signed_values input.lookup (segments 59 input.signed_headers) = some headers ∧
      input.payload = some payload_hash ∧
      text = request_text input.method.val (Percent.encode (unreserved false) input.canonical_uri.val) query
        (headers.flatMap aws_header) input.signed_headers payload_hash ∧
      text ≠ aws_canonical_request input.method.val input.canonical_uri.val
        (kept input.exclude_query_name parameters) headers input.signed_headers payload_hash ∧
      (request_text input.method.val (Percent.encode (unreserved false) input.canonical_uri.val) query
          (headers.flatMap aws_header ++ [10]) input.signed_headers payload_hash =
        aws_canonical_request input.method.val input.canonical_uri.val
          (kept input.exclude_query_name parameters) headers input.signed_headers payload_hash ↔
        (∀ pair ∈ kept input.exclude_query_name parameters, pair.truncated = pair) ∧
          (((kept input.exclude_query_name parameters).insertionSort query_pair_le).map
            QueryPair.encoded).Pairwise query_pair_le) := by
  obtain ⟨parameters, headers, payload_hash, hparameters, hheaders, hpayload, htext⟩ :=
    canonical_request_eq_some hhashed
  refine ⟨parameters, headers, payload_hash, _, hparameters, hheaders, hpayload, htext, ?_, ?_⟩
  · intro hsame
    rw [htext, request_text, aws_canonical_request] at hsame
    have hrest := (List.cons.inj (List.append_cancel_left hsame)).2
    obtain ⟨_, hrest⟩ := Text.append_cons_inj (lf_not_mem_uri _) (lf_not_mem_uri _) hrest
    obtain ⟨_, hrest⟩ := Text.append_cons_inj (lf_not_mem_query _) (lf_not_mem_aws_query _) hrest
    have hlength := congrArg List.length (List.append_cancel_left hrest)
    simp at hlength
  · rw [← joined_emitted_eq_aws_iff]
    constructor
    · intro hsame
      have hrest := (List.cons.inj (List.append_cancel_left hsame)).2
      obtain ⟨_, hrest⟩ := Text.append_cons_inj (lf_not_mem_uri _) (lf_not_mem_uri _) hrest
      exact (Text.append_cons_inj (lf_not_mem_query _) (lf_not_mem_aws_query _) hrest).1
    · intro hquery
      rw [hquery, request_text, aws_canonical_request]
      simp

theorem get_clean : 0 ∉ ascii "GET" := by decide +kernel

theorem bucket_clean : 0 ∉ ascii "/bucket" := by decide +kernel

theorem localhost_clean : 0 ∉ ascii "localhost" := by decide +kernel

/-- A request with one signed header. -/
def host_input (raw_query : Option CString) : CanonicalInput :=
  { method := ⟨ascii "GET", get_clean⟩
    canonical_uri := ⟨ascii "/bucket", bucket_clean⟩
    raw_query := raw_query
    exclude_query_name := none
    signed_headers := ascii "host"
    payload_hash := some (ascii "UNSIGNED-PAYLOAD")
    lookup := fun _ => some ⟨ascii "localhost", localhost_clean⟩ }

/-- The two differences on a request: no empty line after the headers, and the
parameter `A` before `[`, whose encoded name `%5B` sorts before `A`. -/
theorem bracket_query_hashed :
    canonical_request (host_input (some ⟨ascii "A=1&%5B=2", by decide +kernel⟩)) =
        some (ascii "GET\n/bucket\nA=1&%5B=2\nhost:localhost\nhost\nUNSIGNED-PAYLOAD") ∧
      decoded_query (some ⟨ascii "A=1&%5B=2", by decide +kernel⟩) = some [⟨[65], [49]⟩, ⟨[91], [50]⟩] ∧
      aws_canonical_request (ascii "GET") (ascii "/bucket") [⟨[65], [49]⟩, ⟨[91], [50]⟩]
          [(ascii "host", ascii "localhost")] (ascii "host") (ascii "UNSIGNED-PAYLOAD") =
        ascii "GET\n/bucket\n%5B=2&A=1\nhost:localhost\n\nhost\nUNSIGNED-PAYLOAD" := by
  decide +kernel

/-- The verifier's text for a request without a query. -/
theorem host_request_hashed :
    ∃ text, canonical_request (host_input none) = some text ∧
      text ≠ aws_canonical_request (ascii "GET") (ascii "/bucket") [] [(ascii "host", ascii "localhost")]
        (ascii "host") (ascii "UNSIGNED-PAYLOAD") := by
  have hhashed : canonical_request (host_input none) =
      some (ascii "GET\n/bucket\n\nhost:localhost\nhost\nUNSIGNED-PAYLOAD") := by decide +kernel
  obtain ⟨parameters, headers, payload_hash, query, hparameters, hheaders, hpayload, htext, hne, _⟩ :=
    hashed_request_lacks_line (host_input none) _ hhashed
  obtain rfl : parameters = [] := (Option.some.inj hparameters).symm
  obtain rfl : headers = [(ascii "host", ascii "localhost")] := (Option.some.inj hheaders).symm
  obtain rfl : payload_hash = ascii "UNSIGNED-PAYLOAD" := (Option.some.inj hpayload).symm
  exact ⟨_, hhashed, hne⟩

end request

end turbop2p.m3_gateway_sigv4
