import TurboP2P.Gateway.List

open turbop2p.m3_namespace_local_store
open turbop2p.m3_object_manifest (ChunkCid)
open Text

namespace turbop2p.m3_gateway

section document

def element (tag : String) (text : List UInt8) : Element := ⟨ascii tag, text⟩

def header_elements (bucket prefix_bytes marker : List UInt8) (max_keys : Nat) : List Element :=
  [element "?xml version=\"1.0\" encoding=\"UTF-8\"?" [10],
    element "ListBucketResult xmlns=\"http://s3.amazonaws.com/doc/2006-03-01/\"" [],
    element "Name" (Text.escape bucket), element "/Name" [],
    element "Prefix" (Text.escape prefix_bytes), element "/Prefix" [],
    element "Marker" (Text.escape marker), element "/Marker" [],
    element "MaxKeys" (Text.decimal max_keys), element "/MaxKeys" []]

def contents_elements (object_key : List UInt8) (object_cid : ChunkCid) : List Element :=
  [element "Contents" [],
    element "Key" (Text.escape object_key), element "/Key" [],
    element "LastModified" (ascii LIST_LAST_MODIFIED), element "/LastModified" [],
    element "ETag" (gateway_etag_quoted object_cid.digest), element "/ETag" [],
    element "Size" (Text.decimal object_cid.size.toNat), element "/Size" [],
    element "/Contents" []]

def footer_elements (next_marker : Option (List UInt8)) : List Element :=
  match next_marker with
  | none =>
    [element "IsTruncated" (ascii "false"), element "/IsTruncated" [], element "/ListBucketResult" []]
  | some next_marker =>
    [element "IsTruncated" (ascii "true"), element "/IsTruncated" [],
      element "NextMarker" (Text.escape next_marker), element "/NextMarker" [], element "/ListBucketResult" []]

theorem header_appends (ctx : ListCtx) (bucket prefix_bytes marker : List UInt8) (max_keys : Nat) :
    Appends ctx (list_header ctx bucket prefix_bytes marker max_keys)
      (render (header_elements bucket prefix_bytes marker max_keys)) := by
  have hchain : Appends ctx (list_header ctx bucket prefix_bytes marker max_keys) _ :=
    (Appends.append _ _).trans (.append _ _) |>.trans (.append _ _) |>.trans (.escaped _ _) |>.trans (.append _ _)
      |>.trans (.escaped _ _) |>.trans (.append _ _) |>.trans (.escaped _ _) |>.trans (.append _ _)
      |>.trans (.append _ _) |>.trans (.append _ _)
  refine cast (congrArg (Appends ctx _) ?_) hchain
  simp only [render, header_elements, element, Element.body, List.flatMap_cons, List.flatMap_nil]
  simp only [List.cons_append, List.append_assoc, List.nil_append, List.append_nil]
  rfl

theorem contents_appends (ctx : ListCtx) (object_key : List UInt8) (object_cid : ChunkCid) :
    Appends ctx (list_contents ctx object_key object_cid) (render (contents_elements object_key object_cid)) := by
  have hchain : Appends ctx (list_contents ctx object_key object_cid) _ :=
    (Appends.append _ _).trans (.escaped _ _) |>.trans (.append _ _) |>.trans (.append _ _) |>.trans (.append _ _)
      |>.trans (.append _ _) |>.trans (.append _ _) |>.trans (.append _ _) |>.trans (.append _ _)
  refine cast (congrArg (Appends ctx _) ?_) hchain
  simp only [render, contents_elements, element, Element.body, List.flatMap_cons, List.flatMap_nil]
  simp only [List.cons_append, List.append_assoc, List.nil_append, List.append_nil]
  rfl

theorem footer_appends (ctx : ListCtx) :
    Appends ctx (list_footer ctx)
      (render (footer_elements (if ctx.truncated then some (c_string ctx.next_marker) else none))) := by
  cases htruncated : ctx.truncated with
  | false =>
    have hfooter : list_footer ctx = list_xml_append (list_xml_append (list_xml_append (list_xml_append ctx
        (ascii "<IsTruncated>")) (ascii "false")) (ascii "</IsTruncated>")) (ascii "</ListBucketResult>") := by
      simp [list_footer, htruncated]
    rw [hfooter]
    exact (Appends.append _ _).trans (.append _ _) |>.trans (.append _ _) |>.trans (.append _ _)
  | true =>
    have hfooter : list_footer ctx = list_xml_append (list_xml_append (list_xml_append_escaped (list_xml_append
        (list_xml_append (list_xml_append (list_xml_append ctx (ascii "<IsTruncated>")) (ascii "true"))
        (ascii "</IsTruncated>")) (ascii "<NextMarker>")) (c_string ctx.next_marker)) (ascii "</NextMarker>"))
        (ascii "</ListBucketResult>") := by
      simp [list_footer, htruncated]
    rw [hfooter]
    have hchain := (Appends.append ctx (ascii "<IsTruncated>")).trans (.append _ (ascii "true"))
      |>.trans (.append _ (ascii "</IsTruncated>")) |>.trans (.append _ (ascii "<NextMarker>"))
      |>.trans (.escaped _ (c_string ctx.next_marker)) |>.trans (.append _ (ascii "</NextMarker>"))
      |>.trans (.append _ (ascii "</ListBucketResult>"))
    refine cast (congrArg (Appends ctx _) ?_) hchain
    simp only [if_true, render, footer_elements, element, Element.body, List.flatMap_cons, List.flatMap_nil]
    simp only [List.cons_append, List.append_assoc, List.nil_append, List.append_nil]
    rfl

/-- The fixed texts hold no tag, and the names of the tags no end of a tag. -/
theorem texts_plain :
    60 ∉ ascii LIST_LAST_MODIFIED ∧ 60 ∉ ascii "true" ∧ 60 ∉ ascii "false" ∧ 60 ∉ ascii "m3" ∧
      ∀ tag ∈ ["Key", "IsTruncated", "NextMarker", "Name"], 62 ∉ ascii tag := by
  decide +kernel

theorem header_plain (bucket prefix_bytes marker : List UInt8) (max_keys : Nat) :
    ∀ element ∈ header_elements bucket prefix_bytes marker max_keys, element.Plain := by
  refine plain_of_tags rfl ?_
  simp [header_elements, element]

theorem contents_plain (object_key : List UInt8) (object_cid : ChunkCid) :
    ∀ element ∈ contents_elements object_key object_cid, element.Plain := by
  refine plain_of_tags rfl ?_
  simp [contents_elements, element, gateway_etag_quoted, texts_plain.1]

theorem footer_plain (next_marker : Option (List UInt8)) : ∀ element ∈ footer_elements next_marker, element.Plain := by
  obtain ⟨_, htrue, hfalse, _⟩ := texts_plain
  cases next_marker with
  | none =>
    refine plain_of_tags rfl ?_
    simp [footer_elements, element, hfalse]
  | some next_marker =>
    refine plain_of_tags rfl ?_
    simp [footer_elements, element, htrue]

/-- The longest row of a listing. -/
def ROW_BYTES : Nat := 6341

theorem length_contents_le {object_key : List UInt8} (hkey : object_key.length ≤ MAX_OBJECT_KEY_BYTES)
    (object_cid : ChunkCid) : (render (contents_elements object_key object_cid)).length ≤ ROW_BYTES := by
  have htags : ((contents_elements object_key object_cid).map fun element => element.tag.length + 2).sum = 87 := rfl
  have hmodified : (ascii LIST_LAST_MODIFIED).length = 24 := rfl
  have hescape := length_escape_le object_key
  have hsize : (decimal object_cid.size.toNat).length ≤ 20 :=
    length_decimal_le (by decide) (Nat.lt_trans object_cid.size.toNat_lt (by decide))
  rw [length_render, htags]
  simp only [contents_elements, element, gateway_etag_quoted, List.map_cons, List.map_nil, List.sum_cons, List.sum_nil,
    List.length_cons, List.length_append, List.length_nil, length_hex_encode, List.Vector.toList_length, hmodified]
  unfold MAX_OBJECT_KEY_BYTES at hkey
  unfold ROW_BYTES
  omega

theorem length_header_le {bucket prefix_bytes marker : List UInt8} {max_keys : Nat}
    (hbucket : bucket.length ≤ MAX_BUCKET_BYTES) (hfront : prefix_bytes.length ≤ MAX_OBJECT_KEY_BYTES)
    (hmarker : marker.length ≤ MAX_OBJECT_KEY_BYTES) (hkeys : max_keys ≤ LIST_MAX_KEYS) :
    (render (header_elements bucket prefix_bytes marker max_keys)).length ≤ 14000 := by
  have htags : ((header_elements bucket prefix_bytes marker max_keys).map fun element => element.tag.length + 2).sum =
      170 := rfl
  have hnumber : (decimal max_keys).length ≤ 4 := length_decimal_le (by decide) (Nat.lt_of_le_of_lt hkeys (by decide))
  have hname := length_escape_le bucket
  have hstart := length_escape_le prefix_bytes
  have hafter := length_escape_le marker
  rw [length_render, htags]
  simp only [header_elements, element, List.map_cons, List.map_nil, List.sum_cons, List.sum_nil, List.length_cons,
    List.length_nil]
  unfold MAX_BUCKET_BYTES at hbucket
  unfold MAX_OBJECT_KEY_BYTES at hfront hmarker
  omega

theorem length_footer_le {next_marker : Option (List UInt8)}
    (hmarker : ∀ marker ∈ next_marker, marker.length ≤ MAX_OBJECT_KEY_BYTES) :
    (render (footer_elements next_marker)).length ≤ 7000 := by
  rw [length_render]
  cases next_marker with
  | none =>
    decide
  | some marker =>
    have htags : ((footer_elements (some marker)).map fun element => element.tag.length + 2).sum = 71 := rfl
    have htrue : (ascii "true").length = 4 := rfl
    have hescape := length_escape_le marker
    have hmarker := hmarker marker rfl
    rw [htags]
    simp only [footer_elements, element, List.map_cons, List.map_nil, List.sum_cons, List.sum_nil, List.length_nil, htrue]
    unfold MAX_OBJECT_KEY_BYTES at hmarker
    omega

end document

variable {items : List Listed} {listed : Listed} {select : List UInt8 → List Element} {tag : List UInt8}

section rows

variable (sha256 : List UInt8 → Bytes 32)

/-- What the gateway can list: an object whose manifest decodes and whose key
fits into a marker. -/
def Listable (listed : Listed) : Prop :=
  (∃ manifest, gateway_decode sha256 listed.manifest_bytes = .ok manifest) ∧
    listed.object_key.length ≤ MAX_OBJECT_KEY_BYTES

def row_elements (listed : Listed) : List Element :=
  match gateway_decode sha256 listed.manifest_bytes with
  | .ok manifest => contents_elements listed.object_key manifest.object_cid
  | .error _ => []

/-- A context after the callback has seen the rows behind the marker. -/
def ListCtx.with_rows (ctx : ListCtx) (rows : List Listed) : ListCtx :=
  let page := rows.take ctx.max_keys
  { ctx with
    xml := ctx.xml ++ Text.render (page.flatMap (row_elements sha256)), listed := page.length
    truncated := ctx.max_keys < rows.length, next_marker := (page.getLast?.map (·.object_key)).getD ctx.next_marker }

variable {sha256} {ctx : ListCtx} {rows : List Listed}

theorem length_row_le (hlistable : Listable sha256 listed) :
    (render (row_elements sha256 listed)).length ≤ ROW_BYTES := by
  obtain ⟨⟨manifest, hdecode⟩, hkey⟩ := hlistable
  rw [row_elements, hdecode]
  exact length_contents_le hkey manifest.object_cid

theorem length_rows_le (hrows : ∀ row ∈ rows, Listable sha256 row) :
    (render (rows.flatMap (row_elements sha256))).length ≤ ROW_BYTES * rows.length := by
  induction rows with
  | nil => simp [render]
  | cons row rows ih =>
    have hrow := length_row_le (hrows row List.mem_cons_self)
    have hrest := ih fun row hrow => hrows row (List.mem_cons_of_mem _ hrow)
    rw [List.flatMap_cons, render_append, List.length_append, List.length_cons, Nat.mul_succ]
    omega

/-- The callback adds a row to a page that has room for it. -/
theorem with_rows_step (hctx : ctx.failed = false) (hrows : ∀ row ∈ rows, Listable sha256 row)
    (hlisted : Listable sha256 listed) (hbehind : ∀ marker ∈ ctx.marker, marker < listed.object_key)
    (hfits : ctx.xml.length + ROW_BYTES * ctx.max_keys ≤ LIST_MAX_XML_BYTES) :
    list_objects_cb sha256 (ctx.with_rows sha256 rows) listed = ctx.with_rows sha256 (rows ++ [listed]) := by
  have hpasses : (ctx.marker.any fun marker => marker ≠ [] ∧ list_key_cmp listed.object_key marker ≠ .gt) = false := by
    rw [Option.any_eq_false]
    intro marker hmarker
    simp [list_key_cmp_eq_gt_iff.mpr (hbehind marker hmarker)]
  unfold list_objects_cb
  rw [if_neg (by simp [ListCtx.with_rows, hctx]), if_neg (by simpa [ListCtx.with_rows] using hpasses)]
  by_cases hroom : rows.length < ctx.max_keys
  · have htake : rows.take ctx.max_keys = rows := List.take_of_length_le (Nat.le_of_lt hroom)
    have htake' : (rows ++ [listed]).take ctx.max_keys = rows ++ [listed] :=
      List.take_of_length_le (by rw [List.length_append]; exact hroom)
    have hrow := length_row_le hlisted
    have hpage := length_rows_le hrows
    have hbound := Nat.mul_le_mul_left ROW_BYTES (Nat.succ_le_of_lt hroom)
    rw [Nat.mul_succ] at hbound
    obtain ⟨⟨manifest, hdecode⟩, hkey⟩ := hlisted
    simp only [row_elements, hdecode] at hrow
    have hcontents := contents_appends { ctx.with_rows sha256 rows with next_marker := listed.object_key }
      listed.object_key manifest.object_cid (by
        simp only [ListCtx.with_rows, htake, List.length_append]
        omega)
    rw [if_neg (by simpa [ListCtx.with_rows, htake] using hroom)]
    simp only [hdecode]
    rw [if_neg (Nat.not_lt.mpr hkey), hcontents]
    simp [ListCtx.with_rows, htake, htake', row_elements, hdecode, Nat.not_lt.mpr (Nat.le_of_lt hroom)]
    omega
  · have hmore : ctx.max_keys ≤ rows.length := Nat.not_lt.mp hroom
    have htake : (rows ++ [listed]).take ctx.max_keys = rows.take ctx.max_keys := List.take_append_of_le_length hmore
    rw [if_pos (by simpa [ListCtx.with_rows] using hmore)]
    simp [ListCtx.with_rows, htake, Nat.lt_succ_of_le hmore]

/-- The callback passes over an object that is not behind the marker. -/
theorem with_rows_skip {marker : List UInt8} (hmarker : ctx.marker = some marker) (hne : marker ≠ [])
    (hbefore : ¬ marker < listed.object_key) :
    list_objects_cb sha256 (ctx.with_rows sha256 rows) listed = ctx.with_rows sha256 rows := by
  have hcmp : list_key_cmp listed.object_key marker ≠ .gt := list_key_cmp_eq_gt_iff.not.mpr hbefore
  unfold list_objects_cb
  by_cases hfailed : (ctx.with_rows sha256 rows).failed = true
  · rw [if_pos hfailed]
  · rw [if_neg hfailed, if_pos (by simp [ListCtx.with_rows, hmarker, hne, hcmp])]

/-- A whole enumeration fills a page with the objects behind the marker. -/
theorem foldl_list_objects_cb (hctx : ctx.failed = false) (hfresh : ctx.with_rows sha256 [] = ctx)
    (hmarker : ∀ marker ∈ ctx.marker, marker ≠ []) (hitems : ∀ item ∈ items, Listable sha256 item)
    (hfits : ctx.xml.length + ROW_BYTES * ctx.max_keys ≤ LIST_MAX_XML_BYTES) :
    items.foldl (list_objects_cb sha256) ctx =
      ctx.with_rows sha256 (Paging.behind (·.object_key) ctx.marker items) := by
  induction items using List.reverseRecOn with
  | nil => exact hfresh.symm
  | append_singleton items item ih =>
    have hbefore : ∀ row ∈ items, Listable sha256 row := fun row hrow => hitems row (List.mem_append_left _ hrow)
    have hitem : Listable sha256 item := hitems item (List.mem_append_right _ (List.mem_singleton_self item))
    have hrows : ∀ row ∈ Paging.behind (·.object_key) ctx.marker items, Listable sha256 row := fun row hrow =>
      hbefore row (List.mem_of_mem_filter hrow)
    rw [List.foldl_append, List.foldl_cons, List.foldl_nil, ih hbefore, Paging.behind_append]
    by_cases hbehind : ∀ marker ∈ ctx.marker, marker < item.object_key
    · have hsingle : Paging.behind (·.object_key) ctx.marker [item] = [item] := by
        simpa [Paging.behind, Option.all_eq_true] using hbehind
      rw [hsingle]
      exact with_rows_step hctx hrows hitem hbehind hfits
    · obtain ⟨marker, hnot⟩ := not_forall.mp hbehind
      obtain ⟨hsome, hlt⟩ := not_forall.mp hnot
      have hsome : ctx.marker = some marker := hsome
      have hsingle : Paging.behind (·.object_key) ctx.marker [item] = [] := by
        simpa [Paging.behind, hsome] using hlt
      rw [hsingle, List.append_nil]
      exact with_rows_skip hsome (hmarker marker hsome) hlt

end rows

section client

/-- What a client reads off a reply: the keys in their order and the marker to
go on with. -/
def read_page (document : List UInt8) : List (List UInt8) × Option (List UInt8) :=
  (Text.texts (ascii "Key") document,
    if Text.texts (ascii "IsTruncated") document = [ascii "true"] then (Text.texts (ascii "NextMarker") document).head?
    else none)

variable {sha256 : List UInt8 → Bytes 32} {rows : List Listed}

theorem rows_plain (rows : List Listed) : ∀ element ∈ rows.flatMap (row_elements sha256), element.Plain := by
  intro element helement
  obtain ⟨row, _, hrow⟩ := List.mem_flatMap.mp helement
  unfold row_elements at hrow
  split at hrow
  · exact contents_plain _ _ element hrow
  · cases hrow

/-- The elements of a row with a tag do not depend on the row's manifest. -/
theorem filter_rows (hselect : ∀ key cid, (contents_elements key cid).filter (·.tag = tag) = select key)
    (hrows : ∀ row ∈ rows, Listable sha256 row) :
    (rows.flatMap (row_elements sha256)).filter (·.tag = tag) = rows.flatMap fun row => select row.object_key := by
  induction rows with
  | nil => rfl
  | cons row rows ih =>
    obtain ⟨⟨manifest, hdecode⟩, _⟩ := hrows row List.mem_cons_self
    have hrest := ih fun row hrow => hrows row (List.mem_cons_of_mem _ hrow)
    rw [List.flatMap_cons, List.filter_append, hrest, List.flatMap_cons, row_elements, hdecode, hselect]

section page

variable (bucket prefix_bytes marker : List UInt8) (max_keys : Nat) (next_marker : Option (List UInt8))

def page_elements (sha256 : List UInt8 → Bytes 32) (rows : List Listed) : List Element :=
  header_elements bucket prefix_bytes marker max_keys ++ rows.flatMap (row_elements sha256) ++
    footer_elements next_marker

/-- Texts of the page behind a tag that its header does not use. -/
theorem texts_page (htag : 62 ∉ tag)
    (hheader : (header_elements bucket prefix_bytes marker max_keys).filter (·.tag = tag) = [])
    (hselect : ∀ key cid, (contents_elements key cid).filter (·.tag = tag) = select key)
    (hrows : ∀ row ∈ rows, Listable sha256 row) :
    texts tag (render (page_elements bucket prefix_bytes marker max_keys next_marker sha256 rows)) =
      ((rows.flatMap fun row => select row.object_key) ++ (footer_elements next_marker).filter (·.tag = tag)).map
        fun element => unescape element.text := by
  have hplain : ∀ element ∈ page_elements bucket prefix_bytes marker max_keys next_marker sha256 rows, element.Plain := by
    intro element helement
    rcases List.mem_append.mp helement with helement | helement
    · rcases List.mem_append.mp helement with helement | helement
      · exact header_plain _ _ _ _ element helement
      · exact rows_plain rows element helement
    · exact footer_plain _ element helement
  rw [texts_render htag hplain, page_elements, List.filter_append, List.filter_append, hheader, List.nil_append,
    filter_rows hselect hrows]

/-- The client reads the rows and the marker that the gateway has written. -/
theorem read_page_render (hrows : ∀ row ∈ rows, Listable sha256 row) :
    read_page (render (page_elements bucket prefix_bytes marker max_keys next_marker sha256 rows)) =
      (rows.map (·.object_key), next_marker) := by
  obtain ⟨_, _, _, _, htags⟩ := texts_plain
  have hkeys : texts (ascii "Key")
      (render (page_elements bucket prefix_bytes marker max_keys next_marker sha256 rows)) =
      rows.map (·.object_key) := by
    have hselect : ∀ key cid, (contents_elements key cid).filter (·.tag = ascii "Key") =
        [element "Key" (escape key)] := fun _ _ => rfl
    have hfooter : (footer_elements next_marker).filter (·.tag = ascii "Key") = [] := by cases next_marker <;> rfl
    rw [texts_page bucket prefix_bytes marker max_keys next_marker (htags _ (by simp)) rfl hselect hrows, hfooter,
      List.append_nil, List.map_flatMap]
    simp [element, ← List.map_eq_flatMap]
  have hrest : ∀ tag, 62 ∉ tag → (header_elements bucket prefix_bytes marker max_keys).filter (·.tag = tag) = [] →
      (∀ key cid, (contents_elements key cid).filter (·.tag = tag) = []) → texts tag
        (render (page_elements bucket prefix_bytes marker max_keys next_marker sha256 rows)) =
      ((footer_elements next_marker).filter (·.tag = tag)).map fun element => unescape element.text := by
    intro tag htag hheader hselect
    rw [texts_page bucket prefix_bytes marker max_keys next_marker htag hheader hselect hrows]
    simp
  have htruncated := hrest (ascii "IsTruncated") (htags _ (by simp)) rfl (fun _ _ => rfl)
  have hnext := hrest (ascii "NextMarker") (htags _ (by simp)) rfl (fun _ _ => rfl)
  rw [read_page, hkeys, htruncated, hnext]
  cases next_marker with
  | none => rfl
  | some next_marker =>
    have hmarker : ((footer_elements (some next_marker)).filter (·.tag = ascii "NextMarker")).map
        (fun element => unescape element.text) = [unescape (escape next_marker)] := rfl
    rw [hmarker, unescape_escape]
    rfl

end page

end client

section buckets

/-- The document of a list of buckets in front of the names. -/
def buckets_header : List Element :=
  [element "?xml version=\"1.0\" encoding=\"UTF-8\"?" [10],
    element "ListAllMyBucketsResult xmlns=\"http://s3.amazonaws.com/doc/2006-03-01/\"" [],
    element "Owner" [], element "ID" (ascii "m3"), element "/ID" [],
    element "DisplayName" (ascii "m3"), element "/DisplayName" [], element "/Owner" [], element "Buckets" []]

def bucket_elements (name : List UInt8) : List Element :=
  [element "Bucket" [], element "Name" (Text.escape name), element "/Name" [], element "/Bucket" []]

def buckets_elements (names : List (List UInt8)) : List Element :=
  buckets_header ++ names.flatMap bucket_elements ++ [element "/Buckets" [], element "/ListAllMyBucketsResult" []]

theorem buckets_header_appends (ctx : ListCtx) : Appends ctx (list_buckets_header ctx) (render buckets_header) := by
  have hchain : Appends ctx (list_buckets_header ctx) _ := (Appends.append _ _).trans (.append _ _)
  exact cast (congrArg (Appends ctx _) (by decide +kernel)) hchain

/-- The callback of the bucket list writes a name for every call. -/
theorem foldl_list_buckets_cb {ctx : ListCtx} (hctx : ctx.failed = false)
    (hitems : ∀ item ∈ items, item.bucket ≠ [])
    (hfits : ctx.xml.length + (render ((items.map (·.bucket)).flatMap bucket_elements)).length ≤ LIST_MAX_XML_BYTES) :
    items.foldl list_buckets_cb ctx =
      { ctx with xml := ctx.xml ++ render ((items.map (·.bucket)).flatMap bucket_elements) } := by
  induction items generalizing ctx with
  | nil => simp [render]
  | cons item items ih =>
    have hchain : Appends ctx (list_xml_append (list_xml_append_escaped (list_xml_append ctx (ascii "<Bucket><Name>"))
        item.bucket) (ascii "</Name></Bucket>")) (render (bucket_elements item.bucket)) := by
      refine cast (congrArg (Appends ctx _) ?_) (((Appends.append _ _).trans (.escaped _ _)).trans (.append _ _))
      rfl
    rw [List.map_cons, List.flatMap_cons, render_append, List.length_append] at hfits
    have hstep : list_buckets_cb ctx item = { ctx with xml := ctx.xml ++ render (bucket_elements item.bucket) } := by
      rw [← hchain (by omega)]
      simp [list_buckets_cb, hctx, hitems item List.mem_cons_self]
    have hfailed : (list_buckets_cb ctx item).failed = false := by
      rw [hstep]
      exact hctx
    have hrest := ih hfailed (fun item hitem => hitems item (List.mem_cons_of_mem _ hitem)) (by
      rw [hstep, List.length_append]
      omega)
    rw [List.foldl_cons, hrest, hstep, List.map_cons, List.flatMap_cons, render_append]
    simp

/-- The client reads every name that was written. -/
theorem texts_buckets (names : List (List UInt8)) : texts (ascii "Name") (render (buckets_elements names)) = names := by
  obtain ⟨_, _, _, hm3, htags⟩ := texts_plain
  have hplain : ∀ element ∈ buckets_elements names, element.Plain := by
    intro element helement
    rcases List.mem_append.mp helement with helement | helement
    · rcases List.mem_append.mp helement with helement | helement
      · refine plain_of_tags (by rfl) ?_ element helement
        simp [buckets_header, m3_gateway.element, hm3]
      · obtain ⟨name, _, helement⟩ := List.mem_flatMap.mp helement
        refine plain_of_tags (by rfl) ?_ element helement
        simp [bucket_elements, m3_gateway.element]
    · refine plain_of_tags (by rfl) ?_ element helement
      simp [m3_gateway.element]
  have hheader : buckets_header.filter (·.tag = ascii "Name") = [] := by rfl
  have hfooter : [element "/Buckets" [], element "/ListAllMyBucketsResult" []].filter (·.tag = ascii "Name") = [] := by rfl
  have hname : ∀ name, (bucket_elements name).filter (·.tag = ascii "Name") = [element "Name" (escape name)] :=
    fun _ => by rfl
  rw [texts_render (htags _ (by simp)) hplain, buckets_elements, List.filter_append, List.filter_append, hheader,
    hfooter, List.nil_append, List.append_nil, List.filter_flatMap, List.map_flatMap]
  simp only [hname]
  simp [element]

end buckets

end turbop2p.m3_gateway
