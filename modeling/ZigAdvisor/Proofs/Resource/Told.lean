import ZigAdvisor.Proofs.Http.Addresses
import ZigAdvisor.Proofs.Json.Nested
import ZigAdvisor.Resource.Basic

/-!
# What is told of resources

No resource yields a pair of surrogates, and neither does what is told of a failure to fetch one,
provided the transport tells of its failures without any. Pages are decoded without surrogates,
listings are written in ASCII, and messages quote what they are about.
-/

namespace ZigAdvisor

open Text

@[simp] theorem Encoding.Error.plain_message (e : Encoding.Error) : e.message.Plain := by
  have hname : e.encoding.name.Plain := by
    cases e.encoding <;> simp [Encoding.name]
  simp [message, hname]

namespace Json

@[simp] theorem plain_place (before : Text) : (place before).Plain := by
  simp [place]

@[simp] theorem Fault.plain_message (whole : Text) (fault : Fault) :
    (fault.message whole).Plain := by
  cases fault <;> simp [message]

end Json

def Http.Outcome.IsUnpaired : Http.Outcome → Prop
  | .response _ _ => True
  | .transportError message => message.Unpaired
  | .crash message => message.Unpaired

namespace FetchFault

def IsUnpaired (fault : FetchFault) : Prop := fault.message.Unpaired

theorem IsUnpaired.asFailure {fault : FetchFault} (h : fault.IsUnpaired) :
    fault.asFailure.IsUnpaired := by
  cases fault with
  | badAddress fault =>
    rw [FetchFault.asFailure]
    split <;> exact h
  | _ => exact h

end FetchFault

variable {s : Settings} {net : Http.Outcome} {fault : FetchFault}

theorem Http.unpaired_responseFault? {url : Url} (h : responseFault? url = some fault) :
    fault.IsUnpaired := by
  unfold responseFault? at h
  dsimp only at h
  split_ifs at h
  all_goals
    rw [← Option.some.inj h]
    apply Plain.unpaired
    simp [FetchFault.message]

theorem Http.unpaired_fetch {request : Request} (hnet : net.IsUnpaired)
    (hurl : request.url.written.Plain) (h : (fetch net request).value = .error fault) :
    fault.IsUnpaired := by
  cases net with
  | response status body =>
    simp only [fetch, Traced.value_bind] at h
    split at h
    · next told hfault =>
      cases h
      exact unpaired_responseFault? hfault
    · split at h
      · cases h
      · cases h
        exact (Status.plain_message status hurl).unpaired
  | transportError message =>
    cases h
    exact hnet
  | crash message =>
    cases h
    exact hnet

theorem DocSection.unpaired_fetch (hnet : net.IsUnpaired) (page : DocSection) :
    Except.All Unpaired FetchFault.IsUnpaired (page.fetch s net).value := by
  unfold fetch
  simp only [Traced.value_bind]
  split
  · exact (Http.Url.Fault.plain_message _).unpaired
  · next address haddress =>
    have hurl := Http.Url.plain_written_of_ofRequested haddress
    simp only [Traced.value_bind]
    split
    · exact (Utf8.plain_decodeLossy _).unpaired
    · next message hfault =>
      have hmessage : message.Unpaired := Http.unpaired_fetch hnet hurl hfault
      exact unpaired_constant _ (by simpa using hmessage)
    · next hfault => exact Http.unpaired_fetch hnet hurl hfault

namespace Repositories

theorem unpaired_readBody {depth : ℕ} {body : Bytes} (h : readBody depth body = .error fault) :
    fault.IsUnpaired := by
  unfold readBody at h
  split at h
  · cases h
    exact (Encoding.Error.plain_message _).unpaired
  · next text _ =>
    split at h
    · cases h
    · cases h
      exact (Json.Fault.plain_message text .deepArray).unpaired
    · cases h
      exact (Json.Fault.plain_message text .deepObject).unpaired
    · next fault _ _ _ =>
      cases h
      exact (Json.Fault.plain_message text fault).unpaired

theorem unpaired_search (hnet : net.IsUnpaired) (h : (search s net).value = .error fault) :
    fault.IsUnpaired := by
  unfold search at h
  split at h
  · next message hmessage =>
    cases h
    obtain ⟨token, -, htoken⟩ := Option.bind_eq_some_iff.mp hmessage
    exact (plain_asciiFault? htoken).unpaired
  · split at h
    · cases h
      exact FetchFault.IsUnpaired.asFailure (Http.Url.Fault.plain_message _).unpaired
    · next url hrequested =>
      have hurl := Http.Url.plain_written_of_ofRequested hrequested
      simp only [Traced.value_bind] at h
      split at h
      · exact unpaired_readBody h
      · next hfault =>
        cases h
        exact (Http.unpaired_fetch hnet hurl hfault).asFailure

theorem unpaired_writeListing (depth : ℕ) (items : List Json) :
    Except.All Unpaired FetchFault.IsUnpaired (writeListing depth items) := by
  unfold writeListing
  dsimp only
  split
  · next hcomplete =>
    have hspread := (Json.plain_spread (.arr (items.map entry))).unpaired
    rwa [Json.spread, ← (Json.begins_writeWithin _ depth _).text_eq hcomplete] at hspread
  · exact (plain_ofString _).unpaired

theorem unpaired_fetch (hnet : net.IsUnpaired) :
    Except.All Unpaired FetchFault.IsUnpaired (fetch s net).value := by
  unfold fetch
  simp only [Traced.value_bind]
  split
  · next message hfault =>
    have hmessage : message.Unpaired := unpaired_search hnet hfault
    exact unpaired_constant _ (by simpa using hmessage)
  · next hfault => exact unpaired_search hnet hfault
  · split
    · exact unpaired_writeListing _ _
    · exact (plain_ofString _).unpaired

end Repositories

/-- What reading a resource yields holds no pair of surrogates. -/
theorem Resource.unpaired_read (hnet : net.IsUnpaired) (r : Resource) :
    Except.All Unpaired FetchFault.IsUnpaired (r.read s net).value := by
  cases r with
  | documentation page => exact page.unpaired_fetch hnet
  | repositories => exact Repositories.unpaired_fetch hnet
  | practices => exact (plain_ofLines _).unpaired
  | troubleshooting => exact (plain_ofLines _).unpaired
  | examples => exact (Json.plain_spread _).unpaired

end ZigAdvisor
