import ZigAdvisor.Http.Status
import ZigAdvisor.Http.Url.Target
import ZigAdvisor.Proofs.Json.Shown
import ZigAdvisor.Proofs.Service.Outcomes
import ZigAdvisor.Proofs.Text.Utf8

/-!
# What is told of addresses

Faults of addresses quote what they tell of. An address that a request is made to is written
without surrogates: its host has been checked to be in ASCII, and its other parts are encoded.
-/

namespace ZigAdvisor

open Text

/-! ## Faults -/

namespace Domain

@[simp] theorem Place.plain_number (p : Place) : p.number.Plain := by
  unfold Place.number
  simp

@[simp] theorem DirectionFault.plain_message (fault : DirectionFault) : fault.message.Plain := by
  cases fault <;> simp [message]

@[simp] theorem Fault.plain_message (fault : Fault) : fault.message.Plain := by
  cases fault <;> simp [message]

end Domain

namespace Http

@[simp] theorem Url.Fault.plain_message (fault : Url.Fault) : fault.message.Plain := by
  cases fault with
  | notAscii authority =>
    rw [message]
    cases hfault : asciiFault? authority with
    | none => exact plain_nil
    | some told => exact plain_asciiFault? hfault
  | _ => simp [message]

theorem Status.plain_message (status : ℕ) {url : Text} (h : url.Plain) :
    (message status url).Plain := by
  simp [message, h]

/-! ## Addresses -/

namespace Url

variable {marks : List CodePoint} {t u : Text} {url : Url} {parts : Parts} {query : Option Text}

theorem plain_percentByte (b : UInt8) : (percentByte b).Plain := by
  have hdigit : ∀ n < 16,
      ¬ (CodePoint.ofNat (if n < 10 then 0x30 + n else 0x37 + n)).IsSurrogate := by
    decide
  have hhigh : b.toNat / 16 < 16 := by
    have hlt := b.toNat_lt
    omega
  have hlow : b.toNat % 16 < 16 := Nat.mod_lt _ (by decide)
  exact plain_cons.mpr ⟨by decide, plain_cons.mpr ⟨hdigit _ hhigh,
    plain_cons.mpr ⟨hdigit _ hlow, plain_nil⟩⟩⟩

theorem plain_percentEncode (h : percentEncode marks t = .ok u) : u.Plain := by
  unfold percentEncode at h
  split at h
  · cases h
  · cases h
    intro c hc
    obtain ⟨d, -, hd⟩ := List.mem_flatMap.mp hc
    split_ifs at hd with hplain
    · rw [List.mem_singleton.mp hd]
      exact CodePoint.not_isSurrogate_of_lt (by omega)
    · obtain ⟨b, -, hb⟩ := List.mem_flatMap.mp hd
      exact plain_percentByte b c hb

structure IsEncoded (url : Url) : Prop where
  scheme : url.scheme.Plain
  userInfo : url.userInfo.Plain
  path : url.path.Plain
  query : ∀ q ∈ url.query, q.Plain
  fragment : ∀ f ∈ url.fragment, f.Plain

theorem plain_of_mapM {x y : Option Text} (h : x.mapM (percentEncode marks) = .ok y) :
    ∀ q ∈ y, q.Plain := by
  cases x with
  | none =>
    cases h
    simp
  | some t =>
    obtain ⟨u, hu, hy⟩ := Except.map_eq_ok.mp h
    rw [← hy]
    rintro _ ⟨⟩
    exact plain_percentEncode hu

theorem isEncoded_ofParts (hscheme : parts.scheme.Plain) (h : ofParts parts = .ok url) :
    url.IsEncoded := by
  unfold ofParts at h
  simp only [Except.bind_eq_ok] at h
  obtain ⟨userInfo, huserInfo, host, -, port, -, h⟩ := h
  split at h
  · obtain ⟨_, hthrow, -⟩ := Except.bind_eq_ok.mp h
    cases hthrow
  split at h
  · obtain ⟨_, hthrow, -⟩ := Except.bind_eq_ok.mp h
    cases hthrow
  simp only [Except.bind_eq_ok] at h
  obtain ⟨path, hpath, query, hquery, fragment, hfragment, h⟩ := h
  cases h
  refine ⟨?_, plain_percentEncode huserInfo, plain_percentEncode hpath, plain_of_mapM hquery,
    plain_of_mapM hfragment⟩
  intro c hc
  obtain ⟨d, hd, rfl⟩ := List.mem_map.mp hc
  unfold CodePoint.lowerAscii
  split
  · exact CodePoint.not_isSurrogate_ofNat (by omega)
  · exact hscheme d hd

theorem plain_of_isScheme (h : isScheme t = true) : t.Plain := by
  have hletter {c : CodePoint} (hc : c.isAsciiLetter = true) : ¬ c.IsSurrogate := by
    simp only [CodePoint.isAsciiLetter, Bool.or_eq_true, Bool.and_eq_true, decide_eq_true_eq] at hc
    exact CodePoint.not_isSurrogate_of_lt (by omega)
  have hdigit {c : CodePoint} (hc : c.isAsciiDigit = true) : ¬ c.IsSurrogate := by
    simp only [CodePoint.isAsciiDigit, Bool.and_eq_true, decide_eq_true_eq] at hc
    exact CodePoint.not_isSurrogate_of_lt (by omega)
  cases t with
  | nil => exact plain_nil
  | cons c t =>
    simp only [isScheme, Bool.and_eq_true, List.all_eq_true, Bool.or_eq_true, beq_iff_eq] at h
    refine plain_cons.mpr ⟨hletter h.1, fun d hd => ?_⟩
    rcases h.2 d hd with (((hd | hd) | rfl) | rfl) | rfl
    · exact hletter hd
    · exact hdigit hd
    all_goals decide

theorem plain_scheme_ofText (t : Text) : (Parts.ofText t).scheme.Plain := by
  unfold Parts.ofText
  dsimp only
  split
  · split
    · next hscheme => exact plain_of_isScheme hscheme
    · exact plain_nil
  · exact plain_nil

theorem isEncoded_parse (h : parse t = .ok url) : url.IsEncoded := by
  unfold parse at h
  dsimp only at h
  split at h
  · obtain ⟨_, hthrow, -⟩ := Except.bind_eq_ok.mp h
    cases hthrow
  split at h
  · cases h
  · exact isEncoded_ofParts (plain_scheme_ofText t) h

theorem isEncoded_ofChosenParts (hscheme : parts.scheme.Plain) (h : ofChosenParts parts = .ok url) :
    url.IsEncoded := by
  unfold ofChosenParts at h
  split at h
  · cases h
  · exact isEncoded_ofParts hscheme h

theorem isEncoded_target {url' : Url} (hurl : url.IsEncoded) (h : url.target = .ok url') :
    url'.IsEncoded := by
  unfold target at h
  split at h
  · cases h
    exact hurl
  · exact isEncoded_ofChosenParts plain_nil h

theorem isEncoded_withQuery {url' : Url} {q : Text} (hurl : url.IsEncoded)
    (h : url.withQuery q = .ok url') : url'.IsEncoded :=
  isEncoded_ofChosenParts hurl.scheme h

theorem isAscii_of_checkHost (h : url.checkHost = .ok ()) : url.hostAndPort.isAscii = true := by
  by_contra hnot
  have hascii : url.hostAndPort.isAscii = false := eq_false_of_ne_true hnot
  unfold checkHost at h
  simp only [hascii, Bool.not_false, if_true] at h
  split at h
  · obtain ⟨_, -, hthrow⟩ := Except.bind_eq_ok.mp h
    cases hthrow
  · cases h

theorem IsEncoded.plain_written (h : url.IsEncoded) (hhost : url.hostAndPort.Plain) :
    url.written.Plain := by
  have hauthority : url.parts.authority.Plain := by
    unfold parts
    dsimp only
    split
    · exact hhost
    · simp [h.userInfo, hhost]
  unfold written Parts.written
  simp only [concat_cons, plain_append]
  refine ⟨?_, ?_, h.path, ?_, ?_, plain_nil⟩
  · split
    · exact plain_nil
    · exact plain_append.mpr ⟨h.scheme, by simp⟩
  · split
    · exact plain_nil
    · simpa using hauthority
  · split
    · next q hq => simp [h.query q hq]
    · exact plain_nil
  · split
    · next f hf => simp [h.fragment f hf]
    · exact plain_nil

/-- An address that a request is made to is written without surrogates. -/
theorem plain_written_of_ofRequested (h : ofRequested t query = .ok url) : url.written.Plain := by
  unfold ofRequested at h
  simp only [Except.bind_eq_ok] at h
  obtain ⟨asked, hasked, target, htarget, h⟩ := h
  have hencoded := isEncoded_target (isEncoded_parse hasked) htarget
  cases query with
  | none =>
    simp only [Except.bind_eq_ok] at h
    obtain ⟨_, hchosen, _, hcheck, hurl⟩ := h
    cases hchosen
    cases hurl
    exact hencoded.plain_written (plain_of_isAscii (isAscii_of_checkHost hcheck))
  | some q =>
    simp only [Except.bind_eq_ok] at h
    obtain ⟨_, hchosen, _, hcheck, hurl⟩ := h
    cases hurl
    have hquery := isEncoded_withQuery hencoded hchosen
    exact hquery.plain_written (plain_of_isAscii (isAscii_of_checkHost hcheck))

end Url

end Http

end ZigAdvisor
