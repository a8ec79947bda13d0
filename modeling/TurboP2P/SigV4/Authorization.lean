import TurboP2P.SigV4.Verify

open turbop2p.m3_gateway (c_string)
open Scan (is_space is_digit)
open Text

namespace turbop2p.m3_gateway_sigv4

section authorization

theorem dropWhile_blanks {blanks text : List UInt8} {first : UInt8}
    (hblanks : ∀ c ∈ blanks, (c = 44 || is_space c) = true) (hfirst : (first = 44 || is_space first) = false) :
    (blanks ++ first :: text).dropWhile (fun c => c = 44 || is_space c) = first :: text := by
  rw [List.dropWhile_append_of_pos hblanks, List.dropWhile_cons_of_neg (by simp [hfirst])]

variable {key value blanks rest : List UInt8} {first : UInt8} {auth after : ParsedAuth} (fuel : Nat)
  (hblanks : ∀ c ∈ blanks, (c = 44 || is_space c) = true) (hfirst : (first = 44 || is_space first) = false)
  (hkey : 61 ∉ first :: key)

include hblanks hfirst hkey

/-- One turn of the loop over the parameters reads one of them. -/
theorem auth_fields_turn :
    auth_fields (fuel + 1) (blanks ++ (first :: key ++ 61 :: rest)) auth =
      (auth.assign (first :: key) (rest.takeWhile (· ≠ 44))).bind
        (auth_fields fuel ((rest.dropWhile (· ≠ 44)).drop 1)) := by
  rw [List.cons_append, auth_fields, dropWhile_blanks hblanks hfirst, ← List.cons_append]
  dsimp only
  rw [if_neg (by simp), if_neg (by simp), takeWhile_ne_append hkey, dropWhile_ne_append hkey, List.drop_one,
    List.tail_cons]
  cases auth.assign (first :: key) _ <;> rfl

variable (hvalue : 44 ∉ value)

include hvalue

theorem auth_fields_next :
    auth_fields (fuel + 1) (blanks ++ (first :: key ++ 61 :: (value ++ 44 :: rest))) auth =
      (auth.assign (first :: key) value).bind (auth_fields fuel rest) := by
  rw [auth_fields_turn fuel hblanks hfirst hkey, takeWhile_ne_append hvalue, dropWhile_ne_append hvalue]
  rfl

theorem auth_fields_last (hassign : auth.assign (first :: key) value = some after) :
    auth_fields (fuel + 1) (blanks ++ (first :: key ++ 61 :: value)) auth = some after := by
  rw [auth_fields_turn fuel hblanks hfirst hkey, takeWhile_ne_self hvalue, dropWhile_ne_self hvalue, hassign]
  cases fuel <;> simp [auth_fields]

end authorization

theorem assign_credential {auth after : ParsedAuth} {key value : List UInt8} (hassign : auth.assign key value = some after) :
    after.credential = value ∨ after.credential = auth.credential := by
  unfold ParsedAuth.assign at hassign
  split_ifs at hassign <;> cases hassign <;> simp

/-- A credential ends at its first comma. -/
theorem comma_not_mem_fields {fuel : Nat} {text : List UInt8} {auth after : ParsedAuth}
    (hfields : auth_fields fuel text auth = some after) (hcomma : 44 ∉ auth.credential) : 44 ∉ after.credential := by
  induction fuel generalizing text auth with
  | zero => exact Option.some.inj hfields ▸ hcomma
  | succ fuel ih =>
    unfold auth_fields at hfields
    dsimp only at hfields
    split at hfields
    · exact Option.some.inj hfields ▸ hcomma
    · obtain ⟨_, hfields⟩ := guard_passed hfields
      split at hfields
      · cases hfields
      · rename_i assigned hassign
        refine ih hfields fun hmem => ?_
        rcases assign_credential hassign with hnew | hold
        · exact absurd (List.mem_takeWhile_imp (hnew ▸ hmem)) (by decide)
        · exact hcomma (hold ▸ hmem)

theorem comma_not_mem_credential {authorization : List UInt8} {auth : ParsedAuth}
    (hauth : auth_parse authorization = some auth) : 44 ∉ auth.credential := by
  obtain ⟨_, hauth⟩ := guard_passed hauth
  obtain ⟨_, hauth⟩ := guard_passed hauth
  dsimp only at hauth
  split at hauth
  · cases hauth
  · rename_i hfields
    obtain ⟨_, hauth⟩ := guard_passed hauth
    exact Option.some.inj hauth ▸ comma_not_mem_fields hfields (by simp)

section date

/-- The bytes that a conversion of `sscanf` may take. -/
def scanned (c : UInt8) : Bool := is_space c || is_digit c || c = 43 || c = 45

/-- What a conversion has taken: it ends in a digit, and a single digit stands
before something else. -/
structure Taken (front rest : List UInt8) : Prop where
  scanned : ∀ c ∈ front, scanned c = true
  digit : ∃ c, front.getLast? = some c ∧ is_digit c = true
  single : front.length = 1 → ∀ c, rest.head? = some c → is_digit c = false

/-- The digits of a number, as many as its width allows. -/
theorem taken_digits {width : Nat} {front input : List UInt8} (hfront : ∀ c ∈ front, scanned c = true)
    (hwidth : 2 ≤ front.length + width) (hdigits : (input.take width).takeWhile is_digit ≠ []) :
    Taken (front ++ (input.take width).takeWhile is_digit) (input.drop ((input.take width).takeWhile is_digit).length) where
  scanned c hc := by
    rcases List.mem_append.mp hc with hc | hc
    · exact hfront c hc
    · simp [scanned, List.mem_takeWhile_imp hc]
  digit := by
    refine ⟨_, List.getLast?_append_of_ne_nil _ hdigits ▸ List.getLast?_eq_some_getLast hdigits, ?_⟩
    exact List.mem_takeWhile_imp (List.getLast_mem hdigits)
  single hone c hhead := by
    have hpositive := List.length_pos_of_ne_nil hdigits
    rw [List.length_append] at hone
    obtain ⟨width, rfl⟩ := Nat.exists_eq_add_of_le' (show 2 ≤ width by omega)
    have hlength : ((input.take (width + 2)).takeWhile is_digit).length = 1 := by omega
    match input with
    | [] => simp at hdigits
    | [d] =>
      rw [hlength] at hhead
      simp at hhead
    | d :: c' :: text =>
      rw [hlength] at hhead
      obtain rfl : c' = c := by simpa using hhead
      cases hdigit : is_digit c' with
      | false => rfl
      | true => cases hd : is_digit d <;> simp [hd, hdigit] at hlength

theorem scan_int_eq_some {width : Nat} {input rest : List UInt8} {value : Int} (hwidth : 2 ≤ width)
    (hscan : scan_int width input = some (value, rest)) : ∃ front, input = front ++ rest ∧ Taken front rest := by
  have hblank : ∀ c ∈ input.takeWhile is_space, scanned c = true := fun c hc => by
    simp [scanned, List.mem_takeWhile_imp hc]
  have hsign {c : UInt8} (hc : c = 43 ∨ c = 45) : ∀ b ∈ input.takeWhile is_space ++ [c], scanned b = true := by
    rcases hc with rfl | rfl <;> simpa [or_imp, forall_and] using ⟨hblank, rfl⟩
  have htaken {width : Nat} {front text : List UInt8} (hinput : input = front ++ text)
      (hfront : ∀ c ∈ front, scanned c = true) (hwidth : 2 ≤ front.length + width)
      (hdigits : (text.take width).takeWhile is_digit ≠ []) :
      ∃ front, input = front ++ text.drop ((text.take width).takeWhile is_digit).length ∧
        Taken front (text.drop ((text.take width).takeWhile is_digit).length) := by
    have hprefix : (text.take width).takeWhile is_digit <+: text :=
      (List.takeWhile_prefix _).trans (List.take_prefix width text)
    exact ⟨_, by rw [List.append_assoc, List.prefix_iff_eq_append.mp hprefix, hinput], taken_digits hfront hwidth hdigits⟩
  rw [scan_int] at hscan
  dsimp only at hscan
  cases hinput : input.dropWhile is_space with
  | nil => simp [hinput] at hscan
  | cons c text =>
    have hsplit : input = input.takeWhile is_space ++ c :: text := by rw [← hinput, List.takeWhile_append_dropWhile]
    have hsplit' : input = (input.takeWhile is_space ++ [c]) ++ text := by simpa using hsplit
    simp only [hinput] at hscan
    split_ifs at hscan with hplus hdigits hminus hdigits hdigits <;>
      obtain ⟨_, rfl⟩ := Prod.mk.inj (Option.some.inj hscan)
    · exact htaken hsplit' (hsign (.inl hplus)) (by simp; omega) hdigits
    · exact htaken hsplit' (hsign (.inr hminus)) (by simp; omega) hdigits
    · exact htaken hsplit hblank (by omega) hdigits

theorem Taken.three {first second rest : List UInt8} (hfirst : Taken first (second ++ rest)) (hsecond : Taken second rest) :
    3 ≤ first.length + second.length := by
  obtain ⟨c, hlast, hdigit⟩ := hfirst.digit
  obtain ⟨d, hlast', hdigit'⟩ := hsecond.digit
  have hone : first.length ≠ 0 := fun hnil => by simp [List.length_eq_zero_iff.mp hnil] at hlast
  have hone' : second.length ≠ 0 := fun hnil => by simp [List.length_eq_zero_iff.mp hnil] at hlast'
  by_contra hfew
  obtain ⟨d', rfl⟩ := List.length_eq_one_iff.mp (show second.length = 1 by omega)
  obtain rfl : d' = d := by simpa using hlast'
  have hother := hfirst.single (by omega) d' rfl
  simp [hdigit'] at hother

/-- The letter before the time stands behind eight bytes, since the numbers of
the time do not pass over another one. -/
theorem scanned_take {front back rest : List UInt8} (hfront : ∀ c ∈ front, scanned c = true)
    (hback : ∀ c ∈ back, scanned c = true) (hlong : 4 ≤ front.length) (hlong' : 4 ≤ back.length)
    (heighth : (front ++ 84 :: (back ++ rest))[8]? = some 84) :
    ∀ c ∈ (front ++ 84 :: (back ++ rest)).take 8, scanned c = true := by
  have height : 8 ≤ front.length := by
    by_contra hshort
    obtain ⟨k, hk⟩ := Nat.exists_eq_add_of_le' (show 1 ≤ 8 - front.length by omega)
    rw [List.getElem?_append_right (by omega), hk, List.getElem?_cons_succ, List.getElem?_append_left (by omega)] at heighth
    exact absurd (hback 84 (List.mem_of_getElem? heighth)) (by decide)
  rw [List.take_append_of_le_length height]
  exact fun c hc => hfront c (List.mem_of_mem_take hc)

/-- The first eight bytes of a date that is read are digits, signs and blanks. -/
theorem scanned_date {date : List UInt8} {epoch : Int} (hparse : parse_amzdate date = some epoch) :
    ∀ c ∈ date.take 8, scanned c = true := by
  obtain ⟨hshape, hparse⟩ := guard_passed hparse
  simp only [not_or, not_not] at hshape
  simp only [Option.bind_eq_bind, Option.bind_eq_some_iff] at hparse
  obtain ⟨⟨year, rest⟩, hyear, ⟨month, rest'⟩, hmonth, ⟨day, rest''⟩, hday, hparse⟩ := hparse
  split at hparse
  · next rest time hrest =>
    subst hrest
    simp only [Option.bind_eq_some_iff] at hparse
    obtain ⟨⟨hour, left⟩, hhour, ⟨minute, left'⟩, hminute, ⟨second, left''⟩, hsecond, _⟩ := hparse
    obtain ⟨front, rfl, htaken⟩ := scan_int_eq_some (by decide) hyear
    obtain ⟨front', rfl, htaken'⟩ := scan_int_eq_some (by decide) hmonth
    obtain ⟨front'', rfl, htaken''⟩ := scan_int_eq_some (by decide) hday
    obtain ⟨back, rfl, hback⟩ := scan_int_eq_some (by decide) hhour
    obtain ⟨back', rfl, hback'⟩ := scan_int_eq_some (by decide) hminute
    obtain ⟨back'', rfl, hback''⟩ := scan_int_eq_some (by decide) hsecond
    have hthree := htaken.three htaken'
    have hthree' := hback.three hback'
    have hone {front rest : List UInt8} (htaken : Taken front rest) : 0 < front.length := by
      obtain ⟨c, hlast, _⟩ := htaken.digit
      exact List.length_pos_of_ne_nil (List.ne_nil_of_mem (List.mem_of_getLast? hlast))
    have hlast := hone htaken''
    have hlast' := hone hback''
    have hdate := @scanned_take (front ++ front' ++ front'') (back ++ back' ++ back'') left''
      (by simp only [List.forall_mem_append]; exact ⟨⟨htaken.scanned, htaken'.scanned⟩, htaken''.scanned⟩)
      (by simp only [List.forall_mem_append]; exact ⟨⟨hback.scanned, hback'.scanned⟩, hback''.scanned⟩)
      (by simp only [List.length_append]; omega) (by simp only [List.length_append]; omega)
    simp only [List.append_assoc] at hdate
    exact hdate hshape.2.1
  · cases hparse

end date

section scope

variable {buffer front token rest : List UInt8}

theorem takeWhile_token {c : UInt8} (hslash : 47 ∉ token) (hzero : 0 ∉ token) (hend : c = 47 ∨ c = 0) :
    (token ++ c :: rest).takeWhile (fun b => b ≠ 47 && b ≠ 0) = token := by
  have hkept : ∀ b ∈ token, (b ≠ 47 && b ≠ 0) = true := by
    intro b hb
    have hne : b ≠ 47 := fun heq => hslash (heq ▸ hb)
    have hne' : b ≠ 0 := fun heq => hzero (heq ▸ hb)
    simp [hne, hne']
  rw [List.takeWhile_append_of_pos hkept, List.takeWhile_cons_of_neg (by rcases hend with rfl | rfl <;> simp),
    List.append_nil]

theorem token_head (hne : token ≠ []) (hslash : 47 ∉ token) : (token ++ rest).takeWhile (fun b => b = 47) = [] := by
  cases token with
  | nil => exact absurd rfl hne
  | cons b token =>
    have hb : b ≠ 47 := fun heq => hslash (heq ▸ List.mem_cons_self)
    rw [List.cons_append, List.takeWhile_cons_of_neg (by simpa using hb)]

/-- A part of a credential scope, which ends where a separator or the text
ends. -/
structure Part (token : List UInt8) : Prop where
  ne_nil : token ≠ []
  slash : 47 ∉ token
  zero : 0 ∉ token

/-- A token that is followed by a separator: the next call goes on after it. -/
theorem strtok_token (htoken : Part token) :
    strtok (front ++ (token ++ 47 :: rest)) front.length =
      some (front.length, (front ++ (token ++ [0])).length, front ++ (token ++ [0]) ++ rest) := by
  have hstop : (front ++ (token ++ 47 :: rest))[front.length + token.length]? = some 47 := by simp
  have hset : (front ++ (token ++ 47 :: rest)).set (front.length + token.length) 0 =
      front ++ (token ++ [0]) ++ rest := by
    simp
  unfold strtok
  dsimp only
  rw [List.drop_left, token_head htoken.ne_nil htoken.slash, List.length_nil, Nat.add_zero, List.drop_left,
    takeWhile_token htoken.slash htoken.zero (.inl rfl), if_neg htoken.ne_nil, if_pos hstop, hset]
  simp [Nat.add_assoc]

theorem strtok_last (htoken : Part token) :
    strtok (front ++ (token ++ [0])) front.length =
      some (front.length, (front ++ token).length, front ++ (token ++ [0])) := by
  have hstop : (front ++ (token ++ [0]))[front.length + token.length]? = some 0 := by simp
  unfold strtok
  dsimp only
  rw [List.drop_left, token_head htoken.ne_nil htoken.slash, List.length_nil, Nat.add_zero, List.drop_left,
    takeWhile_token htoken.slash htoken.zero (.inr rfl), if_neg htoken.ne_nil, if_neg (by rw [hstop]; decide)]
  simp

theorem strtok_calls_token (front : List UInt8) {calls : Nat} {starts : List Nat} (htoken : Part token)
    (hcalls : strtok_calls calls (front ++ (token ++ [0]) ++ rest) (front ++ (token ++ [0])).length =
      (starts, buffer)) :
    strtok_calls (calls + 1) (front ++ (token ++ 47 :: rest)) front.length = (front.length :: starts, buffer) := by
  simp only [strtok_calls, strtok_token htoken, hcalls]

theorem strtok_calls_last (calls : Nat) (htoken : Part token) :
    strtok_calls (calls + 1) (front ++ (token ++ [0])) front.length = ([front.length], front ++ (token ++ [0])) := by
  have hend : strtok (front ++ (token ++ [0])) (front ++ token).length = none := by
    simp [strtok]
  simp only [strtok_calls, strtok_last htoken]
  cases calls with
  | zero => rfl
  | succ calls => simp only [strtok_calls, hend]

theorem part_at (front : List UInt8) (hzero : 0 ∉ token) (hbuffer : front ++ (token ++ [0]) <+: buffer) :
    c_string (buffer.drop front.length) = token := by
  obtain ⟨rest, rfl⟩ := hbuffer
  rw [List.append_assoc, List.drop_left, List.append_assoc]
  exact takeWhile_ne_append hzero rest

theorem split_scope_parts {access_key date region service terminator : List UInt8} (haccess : Part access_key)
    (hdate : Part date) (hregion : Part region) (hservice : Part service) (hterminator : Part terminator)
    (hlength : date.length = 8) :
    split_scope (access_key ++ 47 :: scope_text date region service terminator) =
      some ⟨access_key, date, date, region, service, terminator⟩ := by
  have htokens := strtok_calls_token [] haccess (strtok_calls_token _ hdate (strtok_calls_token _ hregion
    (strtok_calls_token _ hservice (strtok_calls_last 1 hterminator))))
  have hbuffer : access_key ++ 47 :: scope_text date region service terminator ++ [0] =
      [] ++ (access_key ++ 47 :: (date ++ 47 :: (region ++ 47 :: (service ++ 47 :: (terminator ++ [0]))))) := by
    simp [scope_text]
  unfold split_scope
  rw [hbuffer]
  dsimp only [List.length_nil] at htokens ⊢
  rw [htokens]
  dsimp only
  rw [Option.some.injEq, Scope.mk.injEq]
  refine ⟨part_at [] haccess.zero (by simp), part_at _ hdate.zero (by simp), ?_, part_at _ hregion.zero (by simp),
    part_at _ hservice.zero (by simp), part_at _ hterminator.zero (by simp)⟩
  rw [List.nil_append, List.append_assoc, List.append_assoc, List.append_assoc, List.drop_left, List.append_assoc,
    ← hlength, List.take_left]

/-- What is left of a buffer after some separators have become terminators. -/
def Cut : List UInt8 → List UInt8 → Prop := List.Forall₂ fun before after => after = before ∨ before = 47 ∧ after = 0

theorem Cut.refl (buffer : List UInt8) : Cut buffer buffer := List.forall₂_same.mpr fun _ _ => .inl rfl

theorem Cut.trans {first second third : List UInt8} (hfirst : Cut first second) (hsecond : Cut second third) :
    Cut first third := by
  induction hfirst generalizing third with
  | nil => exact hsecond
  | cons hbyte _ ih =>
    cases hsecond with
    | cons hbyte' hrest =>
      refine .cons ?_ (ih hrest)
      rcases hbyte with rfl | ⟨rfl, rfl⟩
      · exact hbyte'
      · exact .inr ⟨rfl, hbyte'.elim id (·.2)⟩

theorem Cut.mem {before after : List UInt8} (hcut : Cut before after) {c : UInt8} (hc : c ∈ after) (hzero : c ≠ 0) :
    c ∈ before := by
  induction hcut with
  | nil => exact hc
  | cons hbyte _ ih =>
    rcases List.mem_cons.mp hc with rfl | hc
    · rcases hbyte with rfl | ⟨_, rfl⟩
      · exact List.mem_cons_self
      · exact absurd rfl hzero
    · exact List.mem_cons_of_mem _ (ih hc)

theorem Cut.set {before : List UInt8} {i : Nat} (hslash : before[i]? = some 47) : Cut before (before.set i 0) := by
  induction before generalizing i with
  | nil => simp at hslash
  | cons b before ih =>
    cases i with
    | zero => exact .cons (.inr ⟨by simpa using hslash, rfl⟩) (Cut.refl before)
    | succ i => exact .cons (.inl rfl) (ih (by simpa using hslash))

/-- A token with its terminator is not cut again. -/
theorem Cut.c_string_eq {after : List UInt8} (hcut : Cut (token ++ rest) after) (htoken : 47 ∉ token ∧ 0 ∉ token)
    (hend : ∀ c, rest.head? = some c → c = 0) : c_string after = token := by
  induction token generalizing after with
  | nil =>
    cases hcut with
    | nil => rfl
    | cons hbyte _ =>
      obtain rfl := hend _ rfl
      rcases hbyte with rfl | ⟨hslash, _⟩
      · rfl
      · cases hslash
  | cons b token ih =>
    simp only [List.mem_cons, not_or] at htoken
    cases hcut with
    | cons hbyte hrest =>
      rcases hbyte with rfl | ⟨hslash, _⟩
      · rw [c_string, List.takeWhile_cons_of_pos (by simpa using fun h => htoken.2.1 h.symm)]
        exact congrArg _ (ih hrest ⟨htoken.1.2, htoken.2.2⟩)
      · exact absurd hslash.symm htoken.1.1

/-- A token ends where its buffer has a terminator afterwards. -/
theorem strtok_eq_some {position start next : Nat} {after : List UInt8}
    (hstrtok : strtok buffer position = some (start, next, after)) :
    Cut buffer after ∧ ∃ token rest, Part token ∧ after.drop start = token ++ rest ∧ ∀ c, rest.head? = some c → c = 0 := by
  rw [strtok] at hstrtok
  dsimp only at hstrtok
  generalize position + _ = start' at hstrtok
  obtain ⟨htoken, hstrtok⟩ := guard_passed hstrtok
  have hpart : Part ((buffer.drop start').takeWhile fun c => c ≠ 47 && c ≠ 0) := by
    refine ⟨htoken, fun hslash => ?_, fun hzero => ?_⟩
    · exact absurd (List.mem_takeWhile_imp hslash) (by decide)
    · exact absurd (List.mem_takeWhile_imp hzero) (by decide)
  have hsplit : buffer.drop start' = _ := (List.takeWhile_append_dropWhile (p := fun c => c ≠ 47 && c ≠ 0)).symm
  have hends := List.head?_dropWhile_not (fun c => c ≠ 47 && c ≠ 0) (buffer.drop start')
  generalize (buffer.drop start').takeWhile _ = token at hpart hsplit hstrtok
  generalize (buffer.drop start').dropWhile _ = rest at hsplit hends
  have hstop : buffer[start' + token.length]? = rest.head? := by
    rw [← List.getElem?_drop, hsplit, List.getElem?_append_right (Nat.le_refl _), Nat.sub_self, List.head?_eq_getElem?]
  rw [hstop] at hstrtok
  split at hstrtok <;> rename_i hslash <;> obtain ⟨rfl, _, rfl⟩ : start' = start ∧ _ = next ∧ _ = after := by
    simpa using hstrtok
  · obtain ⟨tail, rfl⟩ := List.head?_eq_some_iff.mp hslash
    refine ⟨Cut.set (hstop.trans hslash), token, 0 :: tail, hpart, ?_, by simp⟩
    rw [List.drop_set, if_neg (by omega), hsplit, Nat.add_sub_cancel_left]
    simp
  · refine ⟨.refl _, token, rest, hpart, hsplit, fun c hc => ?_⟩
    rw [hc] at hends hslash
    simpa [show c ≠ 47 by simpa using hslash] using hends

/-- The tokens that are found are parts. -/
theorem strtok_calls_parts {calls position : Nat} {starts : List Nat} {after : List UInt8}
    (hcalls : strtok_calls calls buffer position = (starts, after)) :
    Cut buffer after ∧ ∀ start ∈ starts, Part (c_string (after.drop start)) := by
  induction calls generalizing buffer position starts after with
  | zero =>
    obtain ⟨rfl, rfl⟩ := Prod.mk.inj hcalls
    exact ⟨.refl _, nofun⟩
  | succ calls ih =>
    rw [strtok_calls] at hcalls
    split at hcalls
    · obtain ⟨rfl, rfl⟩ := Prod.mk.inj hcalls
      exact ⟨.refl _, nofun⟩
    · next start next cut hstrtok =>
      obtain ⟨hcut, token, rest, hpart, hdrop, hend⟩ := strtok_eq_some hstrtok
      obtain ⟨rfl, rfl⟩ := Prod.mk.inj hcalls
      obtain ⟨hcut', hparts⟩ := ih (rfl : strtok_calls calls cut next = (_, _))
      refine ⟨hcut.trans hcut', List.forall_mem_cons.mpr ⟨?_, hparts⟩⟩
      have htoken := hdrop ▸ List.forall₂_drop start hcut'
      rwa [Cut.c_string_eq htoken ⟨hpart.slash, hpart.zero⟩ hend]

/-- The names of a scope are parts of its text. -/
theorem split_scope_eq_some {credential : List UInt8} {scope : Scope} (hsplit : split_scope credential = some scope) :
    ∀ name ∈ [scope.access_key, scope.region, scope.service], Part name ∧ ∀ c ∈ name, c ∈ credential := by
  rw [split_scope] at hsplit
  obtain ⟨hcut, hparts⟩ := strtok_calls_parts (rfl : strtok_calls 6 (credential ++ [0]) 0 = (_, _))
  dsimp only at hsplit
  split at hsplit
  · next access_key date region service terminator rest hstarts =>
    obtain rfl := Option.some.inj hsplit
    have hname (start : Nat) (hstart : start ∈ (strtok_calls 6 (credential ++ [0]) 0).1) :
        Part (c_string ((strtok_calls 6 (credential ++ [0]) 0).2.drop start)) ∧
          ∀ c ∈ c_string ((strtok_calls 6 (credential ++ [0]) 0).2.drop start), c ∈ credential := by
      refine ⟨hparts start hstart, fun c hc => ?_⟩
      have hzero : c ≠ 0 := by simpa using List.mem_takeWhile_imp hc
      have hmem := hcut.mem (List.mem_of_mem_drop ((List.takeWhile_sublist _).subset hc)) hzero
      simpa [hzero] using hmem
    rw [hstarts] at hname
    simp only [List.mem_cons, List.not_mem_nil, or_false]
    rintro name (rfl | rfl | rfl) <;> exact hname _ (by simp)
  · cases hsplit

end scope

end turbop2p.m3_gateway_sigv4
