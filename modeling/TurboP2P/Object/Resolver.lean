import TurboP2P.Namespace.PlacementUpdate

open Codec
open turbop2p.m3_namespace_local_store hiding Result
open turbop2p.m3_object_manifest hiding Result

namespace turbop2p.m3_object_resolver

/-- `m3_object_resolver_result_t`. -/
inductive Result where
  | OK
  | INVALID_ARG
  | INVALID_STATE
  | BUSY
  | NOT_FOUND
  | DENIED
  | STALE
  | UNAVAILABLE
  | CORRUPT
  | DOWNLOAD_FAILED
  | RESOURCE_EXHAUSTED
  deriving DecidableEq

/-- `m3_object_download_result_t`. -/
inductive DownloadResult where
  | OK
  | INVALID_ARG
  | INVALID_STATE
  | BUSY
  | OUTPUT_EXISTS
  | IO_FAILED
  | FETCH_FAILED
  | INTEGRITY
  | RESOURCE_EXHAUSTED
  | CRYPTO_FAILED
  deriving DecidableEq

/-- `m3_object_resolver_request_t`. -/
structure Request where
  key : Key
  output_path : List UInt8
  applied_index : UInt64
  deriving DecidableEq

/-- `m3_object_resolver_v1_t` without its two services. -/
structure Resolver where
  max_object_bytes : UInt64
  max_chunks : Nat
  max_manifest_bytes : Nat
  max_bucket_bytes : Nat
  max_object_key_bytes : Nat
  max_pending : Nat
  pending_count : Nat
  pending : List Request
  is_open : Bool
  deriving DecidableEq

/-- The arguments of a call of `m3_object_resolver_complete_cb`. -/
structure Completion where
  result : Result
  key : Key
  object_cid : Option ChunkCid
  output_path : List UInt8
  applied_index : UInt64
  deriving DecidableEq

/-- What the resolver asks of its download service and tells its caller. -/
inductive Event where
  | download (manifest : ManifestV1) (output_path : List UInt8)
  | complete (completion : Completion)
  deriving DecidableEq

def find_output (resolver : Resolver) (output_path : List UInt8) : Bool :=
  resolver.pending.any fun request => request.output_path = output_path

/-- `unlink_pending`; pending requests have different output paths. -/
def unlink_pending (resolver : Resolver) (request : Request) : Resolver :=
  if find_output resolver request.output_path then
    { resolver with
      pending := resolver.pending.eraseP fun other => other.output_path = request.output_path
      pending_count := resolver.pending_count - 1 }
  else resolver

def finish_request (resolver : Resolver) (request : Request) (result : Result) (object_cid : Option ChunkCid) :
    List Event × Resolver :=
  ([.complete
      { result, key := request.key, object_cid, output_path := request.output_path
        applied_index := request.applied_index }],
    unlink_pending resolver request)

def map_lookup_result : LookupResult → Result
  | .OK => .OK
  | .NOT_FOUND => .NOT_FOUND
  | .DENIED => .DENIED
  | .STALE => .STALE
  | .CORRUPT => .CORRUPT
  | .RESOURCE_EXHAUSTED => .RESOURCE_EXHAUSTED
  | .INVALID_ARG => .UNAVAILABLE
  | .UNAVAILABLE => .UNAVAILABLE

def map_download_result : DownloadResult → Result
  | .OK => .OK
  | .OUTPUT_EXISTS => .BUSY
  | .BUSY => .BUSY
  | .RESOURCE_EXHAUSTED => .RESOURCE_EXHAUSTED
  | .INTEGRITY => .CORRUPT
  | _ => .DOWNLOAD_FAILED

def on_object_downloaded (resolver : Resolver) (request : Request) (result : DownloadResult)
    (object_cid : Option ChunkCid) : List Event × Resolver :=
  finish_request resolver request (map_download_result result) object_cid

-- How `m3_object_download_service_start_v1` answers: with an error, or with OK and, if the
-- download ends before it returns, the arguments of its completion callback.
variable (sha256 : List UInt8 → Bytes 32)
  (start : ManifestV1 → List UInt8 → Except DownloadResult (Option (DownloadResult × Option ChunkCid)))

/-- `on_namespace_lookup`: the manifest is read by the version 1 decoder. -/
def on_namespace_lookup (resolver : Resolver) (request : Request) (lookup_result : LookupResult)
    (response : Option LookupResponse) : List Event × Resolver :=
  if map_lookup_result lookup_result ≠ .OK then
    finish_request resolver request (map_lookup_result lookup_result) none
  else
    match response with
    | none => finish_request resolver request .STALE none
    | some response =>
      if response.linearizable = false ∨ response.applied_index = 0 ∨ response.manifest_bytes.length = 0 ∨
          response.manifest_bytes.length > resolver.max_manifest_bytes then
        finish_request resolver request .STALE none
      else
        let request := { request with applied_index := response.applied_index }
        match decode_v1 sha256 response.manifest_bytes resolver.max_object_bytes resolver.max_chunks with
        | .error _ => finish_request resolver request .CORRUPT none
        | .ok manifest =>
          match start manifest request.output_path with
          | .error result =>
            let finished := finish_request resolver request (map_download_result result) none
            (.download manifest request.output_path :: finished.1, finished.2)
          | .ok none => ([.download manifest request.output_path], resolver)
          | .ok (some (result, object_cid)) =>
            let finished := on_object_downloaded resolver request result object_cid
            (.download manifest request.output_path :: finished.1, finished.2)

/-- `m3_object_resolver_get_v1` with the `start` function of the lookup adapter
as `lookup`, the path checks of the file system library as `path_is_valid`
and the outcome of the allocations as `malloc`. -/
def get_v1 (lookup : LookupRequest → LookupResult × Option (LookupResult × Option LookupResponse))
    (path_is_valid : List UInt8 → Bool) (malloc : Bool) (resolver : Resolver) (key : Key) (output_path : List UInt8) :
    Result × List Event × Resolver :=
  if resolver.is_open = false ∨ Bytes.is_zero key.tenant_id.toList ∨
      !key_is_valid key.bucket resolver.max_bucket_bytes ∨
      !key_is_valid key.object_key resolver.max_object_key_bytes ∨ output_path.length = 0 ∨
      !path_is_valid output_path then (.INVALID_ARG, [], resolver)
  else if find_output resolver output_path then (.BUSY, [], resolver)
  else if resolver.pending_count ≥ resolver.max_pending then (.RESOURCE_EXHAUSTED, [], resolver)
  else if malloc = false then (.RESOURCE_EXHAUSTED, [], resolver)
  else
    let request : Request := { key := key, output_path := output_path, applied_index := 0 }
    let waiting :=
      { resolver with pending := request :: resolver.pending, pending_count := resolver.pending_count + 1 }
    let (lookup_result, completion) := lookup { key := key, require_linearizable := true }
    if lookup_result ≠ .OK then (map_lookup_result lookup_result, [], unlink_pending waiting request)
    else
      match completion with
      | none => (.OK, [], waiting)
      | some (result, response) => (.OK, on_namespace_lookup sha256 start waiting request result response)

section resolve

variable {sha256 : List UInt8 → Bytes 32} {config : Config} {store : Store} {key : Key} {slot : Nat} {entry : Entry}
  {start : ManifestV1 → List UInt8 → Except DownloadResult (Option (DownloadResult × Option ChunkCid))}
  {path_is_valid : List UInt8 → Bool} {malloc : Bool} {resolver : Resolver} {output_path : List UInt8}

def found_response (store : Store) (entry : Entry) : LookupResponse :=
  { manifest_bytes := entry.manifest_bytes, applied_index := store.applied_index, linearizable := true }

/-- The store answers a lookup of an object it holds at once, with the bytes
it holds. -/
theorem lookup_held (hwell : WellFormed sha256 config store) (hfind : find_entry store key = some (slot, entry))
    (hlive : entry.tombstoned = false) :
    local_lookup_start store { key := key, require_linearizable := true } =
      (.OK, some (.OK, some (found_response store entry))) := by
  obtain ⟨hholds, hkey⟩ := find_entry_eq_some hfind
  have hname : name_is_valid store key = true := by
    rw [hwell.limits.name_is_valid_eq, ← hkey]
    exact (hwell.valid slot entry hholds).name
  have hindex := hwell.indexed slot entry hholds
  simp [local_lookup_start, found_response, hwell.limits.is_open, hname, hindex, hfind, hlive]

/-- A request that is accepted hands what the store answers to
`on_namespace_lookup`. -/
theorem get_v1_ok (hwell : WellFormed sha256 config store) (hfind : find_entry store key = some (slot, entry))
    (hlive : entry.tombstoned = false)
    (hget : (get_v1 sha256 start (local_lookup_start store) path_is_valid malloc resolver key output_path).1 = .OK) :
    ∃ waiting, waiting.max_object_bytes = resolver.max_object_bytes ∧ waiting.max_chunks = resolver.max_chunks ∧
      waiting.max_manifest_bytes = resolver.max_manifest_bytes ∧
      (get_v1 sha256 start (local_lookup_start store) path_is_valid malloc resolver key output_path).2 =
        on_namespace_lookup sha256 start waiting { key := key, output_path := output_path, applied_index := 0 } .OK
          (some (found_response store entry)) := by
  generalize houtcome : get_v1 sha256 start (local_lookup_start store) path_is_valid malloc resolver key output_path =
    outcome at hget ⊢
  obtain ⟨result, rest⟩ := outcome
  obtain rfl : result = .OK := hget
  iterate 4 obtain ⟨_, houtcome⟩ := guard_passed houtcome
  simp only [lookup_held hwell hfind hlive, ne_eq, not_true_eq_false, if_false] at houtcome
  exact ⟨{ resolver with
      pending := { key := key, output_path := output_path, applied_index := 0 } :: resolver.pending
      pending_count := resolver.pending_count + 1 }, rfl, rfl, rfl, (Prod.mk.inj houtcome).2.symm⟩

/-- The events of a lookup that found bytes of an acceptable size. -/
theorem on_namespace_lookup_events {request : Request} {response : LookupResponse}
    (hlinearizable : response.linearizable = true) (hindex : response.applied_index ≠ 0)
    (hlength : response.manifest_bytes.length ≠ 0)
    (hfits : response.manifest_bytes.length ≤ resolver.max_manifest_bytes) :
    (on_namespace_lookup sha256 start resolver request .OK (some response)).1 =
      match decode_v1 sha256 response.manifest_bytes resolver.max_object_bytes resolver.max_chunks with
      | .error _ =>
        [.complete
          { result := .CORRUPT, key := request.key, object_cid := none, output_path := request.output_path,
            applied_index := response.applied_index }]
      | .ok manifest =>
        .download manifest request.output_path ::
          match start manifest request.output_path with
          | .error result =>
            [.complete
              { result := map_download_result result, key := request.key, object_cid := none,
                output_path := request.output_path, applied_index := response.applied_index }]
          | .ok none => []
          | .ok (some (result, object_cid)) =>
            [.complete
              { result := map_download_result result, key := request.key, object_cid := object_cid,
                output_path := request.output_path, applied_index := response.applied_index }] := by
  have hguard : ¬ (response.linearizable = false ∨ response.applied_index = 0 ∨ response.manifest_bytes.length = 0 ∨
      response.manifest_bytes.length > resolver.max_manifest_bytes) := by
    simp [hlinearizable, hindex, hfits, List.length_eq_zero_iff.not.mp hlength]
  unfold on_namespace_lookup
  rw [if_neg (by simp [map_lookup_result])]
  dsimp only
  rw [if_neg hguard]
  cases decode_v1 sha256 response.manifest_bytes resolver.max_object_bytes resolver.max_chunks with
  | error result => rfl
  | ok manifest =>
    cases hstart : start manifest request.output_path with
    | error result => simp only [hstart, finish_request]
    | ok inline =>
      cases inline with
      | none => simp only [hstart]
      | some completed => simp only [hstart, on_object_downloaded, finish_request]

/-- Under the object and chunk limits of the store and for manifests that fit
the resolver, an object of the store is handed to the download service
exactly if its manifest is of version 1. A version 2 manifest completes the
request as corrupt, and nothing else but an integrity failure of the
download does. -/
theorem get_v1_version_1_iff (sha256 : List UInt8 → Bytes 32)
    (start : ManifestV1 → List UInt8 → Except DownloadResult (Option (DownloadResult × Option ChunkCid)))
    (path_is_valid : List UInt8 → Bool) (malloc : Bool) (config : Config) (operations : List Operation)
    (resolver : Resolver) (key : Key) (output_path : List UInt8) (slot : Nat) (entry : Entry)
    (hfind : find_entry (reached sha256 config operations) key = some (slot, entry))
    (hlive : entry.tombstoned = false) (hobject : resolver.max_object_bytes = config.max_object_bytes)
    (hchunks : resolver.max_chunks = config.max_chunks.toNat)
    (hfits : entry.manifest_bytes.length ≤ resolver.max_manifest_bytes)
    (hget : (get_v1 sha256 start (local_lookup_start (reached sha256 config operations)) path_is_valid malloc resolver
      key output_path).1 = .OK) :
    let store := reached sha256 config operations
    let events := (get_v1 sha256 start (local_lookup_start store) path_is_valid malloc resolver key output_path).2.1
    ((∃ manifest stored, .download manifest output_path ∈ events ∧ object sha256 store key = some stored ∧
        manifest.object_cid = stored.object_cid ∧ manifest.chunks = stored.chunks) ↔
        read_u32_be (entry.manifest_bytes.drop 8) = VERSION) ∧
      (read_u32_be (entry.manifest_bytes.drop 8) ≠ VERSION →
        events = [.complete
          { result := .CORRUPT, key := key, object_cid := none, output_path := output_path,
            applied_index := store.applied_index }]) ∧
      (read_u32_be (entry.manifest_bytes.drop 8) = VERSION →
        ∀ completion, .complete completion ∈ events → completion.result = .CORRUPT →
          ∃ manifest, start manifest output_path = .error .INTEGRITY ∨
            ∃ object_cid, start manifest output_path = .ok (some (.INTEGRITY, object_cid))) := by
  intro store events
  have hwell : WellFormed sha256 config store := reached_wellFormed sha256 config operations
  obtain ⟨hholds, _⟩ := find_entry_eq_some hfind
  obtain ⟨stored, hstored⟩ := (hwell.valid slot entry hholds).decodes hlive
  obtain ⟨waiting, hbytes, hcount, hsize, hevents⟩ := get_v1_ok hwell hfind hlive hget
  have hheld : object sha256 store key = some stored :=
    object_eq_some hfind hlive ((hwell.limits.decode_manifest_eq _).trans hstored)
  have hlength := manifest_length_ne_zero hstored
  have hlookup := (congrArg Prod.fst hevents).trans
    (on_namespace_lookup_events rfl (hwell.indexed slot entry hholds) hlength (hsize ▸ hfits))
  rw [hbytes, hcount, hobject, hchunks] at hlookup
  change events = _ at hlookup
  dsimp only [found_response] at hlookup
  have hversion := decode_v1_of_decode_v2 hstored
  simp only [Config.fresh] at hversion
  cases hdecode : decode_v1 sha256 entry.manifest_bytes config.max_object_bytes config.max_chunks.toNat with
  | error result =>
    rw [hdecode] at hlookup hversion
    have hother : read_u32_be (entry.manifest_bytes.drop 8) ≠ VERSION := fun hequal => by
      simpa using hversion.mpr hequal
    refine ⟨iff_of_false ?_ hother, fun _ => hlookup, fun hequal => absurd hequal hother⟩
    simp [hlookup]
  | ok manifest =>
    rw [hdecode] at hlookup hversion
    have hequal : read_u32_be (entry.manifest_bytes.drop 8) = VERSION := (decode_v1_ok hdecode).1
    obtain ⟨manifest', hmanifest, hcid, hlist⟩ := hversion.mpr hequal
    obtain rfl := Except.ok.inj hmanifest
    refine ⟨iff_of_true ⟨manifest, stored, by simp [hlookup], hheld, hcid, hlist⟩ hequal,
      fun hother => absurd hequal hother, fun _ completion hmem hcorrupt => ⟨manifest, ?_⟩⟩
    have hintegrity : ∀ result, map_download_result result = .CORRUPT → result = .INTEGRITY := by
      intro result hresult
      cases result <;> simp_all [map_download_result]
    simp only [hlookup, List.mem_cons, reduceCtorEq, false_or] at hmem
    cases hstart : start manifest output_path with
    | error result =>
      simp only [hstart, List.mem_singleton, Event.complete.injEq] at hmem
      subst hmem
      exact .inl (congrArg _ (hintegrity result hcorrupt))
    | ok inline =>
      cases inline with
      | none => simp [hstart] at hmem
      | some completed =>
        simp only [hstart, List.mem_singleton, Event.complete.injEq] at hmem
        subst hmem
        obtain ⟨result, object_cid⟩ := completed
        obtain rfl := hintegrity result hcorrupt
        exact .inr ⟨object_cid, rfl⟩

end resolve

section samples

def small_resolver : Resolver :=
  { max_object_bytes := 1024, max_chunks := 4, max_manifest_bytes := 1024, max_bucket_bytes := 16
    max_object_key_bytes := 16, max_pending := 1, pending_count := 0, pending := [], is_open := true }

/-- A digest function for samples. -/
def constant_hash : List UInt8 → Bytes 32 := fun _ => List.Vector.replicate 32 1

/-- A version 1 manifest of an object of one chunk. -/
def one_chunk_bytes : List UInt8 :=
  frame_v1 { version := VERSION, object_cid := sized_cid 2, chunks := [sized_cid 2] } (constant_hash []).toList

/-- An object that is stored by a version 1 manifest is handed to the download
service with its chunk. -/
theorem one_chunk_resolved :
    ∃ manifest, Event.download manifest [47] ∈
        (get_v1 constant_hash (fun _ _ => .ok none) (local_lookup_start (reached constant_hash small_config
          [.put true 1 small_key one_chunk_bytes])) (fun _ => true) true small_resolver small_key [47]).2.1 ∧
      manifest.chunks = [sized_cid 2] := by
  have hobject : (object constant_hash (reached constant_hash small_config [.put true 1 small_key one_chunk_bytes])
      small_key).map (·.chunks) = some [sized_cid 2] := by decide +kernel
  obtain ⟨manifest, stored, hdownload, hstored, _, hchunks⟩ := (get_v1_version_1_iff constant_hash (fun _ _ => .ok none)
    (fun _ => true) true small_config [.put true 1 small_key one_chunk_bytes] small_resolver small_key [47] 0
    (small_key.entry false one_chunk_bytes 1) (by decide +kernel) rfl rfl rfl (by decide +kernel)
    (by decide +kernel)).1.mpr (by decide +kernel)
  rw [hstored] at hobject
  exact ⟨manifest, hdownload, hchunks.trans (Option.some.inj hobject)⟩

/-- An object that the store has accepted with a version 2 manifest resolves as
corrupt, whatever its digests are. -/
theorem version_2_resolves_corrupt :
    VERSION_2 ≠ VERSION ∧
      ∀ sha256 : List UInt8 → Bytes 32,
        let store := reached sha256 small_config
          [.put true 1 small_key (sealed_frame_v2 sha256 (two_bytes [sized_cid 2]))]
        object sha256 store small_key = some (two_bytes [sized_cid 2]) ∧
          get_v1 sha256 (fun _ _ => .ok none) (local_lookup_start store) (fun _ => true) true small_resolver small_key
              [47] =
            (.OK,
              [.complete
                { result := .CORRUPT, key := small_key, object_cid := none, output_path := [47], applied_index := 1 }],
              small_resolver) := by
  refine ⟨by decide, fun sha256 => ?_⟩
  have hlength := length_two_bytes sha256 [sized_cid 2]
  have hdecode : ∀ bytes index, decode_manifest sha256 (small_store bytes index)
      (sealed_frame_v2 sha256 (two_bytes [sized_cid 2])) = .ok (two_bytes [sized_cid 2]) :=
    fun bytes index => decode_two_bytes sha256 rfl rfl (by decide +kernel) (by decide)
  have hversion : read_u32_be ((sealed_frame_v2 sha256 (two_bytes [sized_cid 2])).drop 8) = VERSION_2 :=
    (frame_v2_fields (two_bytes [sized_cid 2]) _).2.1
  generalize sealed_frame_v2 sha256 (two_bytes [sized_cid 2]) = bytes at hlength hdecode hversion ⊢
  have hcorrupt : ∃ result, decode_v1 sha256 bytes 1024 4 = .error result := by
    cases hdecoded : decode_v1 sha256 bytes 1024 4 with
    | error result => exact ⟨result, rfl⟩
    | ok manifest =>
      rw [(decode_v1_ok hdecoded).1] at hversion
      exact absurd hversion (by decide)
  obtain ⟨result, hcorrupt⟩ := hcorrupt
  rw [reached_small sha256 (by simp [hlength]) (hdecode bytes 1)]
  refine ⟨object_eq_some (small_store_find bytes 1) rfl (hdecode bytes 1), ?_⟩
  have hlookup : local_lookup_start (small_store bytes 1) { key := small_key, require_linearizable := true } =
      (.OK, some (.OK, some (found_response (small_store bytes 1) (small_key.entry false bytes 1)))) := by
    rfl
  simp only [get_v1, hlookup, on_namespace_lookup, found_response, Key.entry, hlength, small_resolver, hcorrupt]
  rfl

end samples

end turbop2p.m3_object_resolver
