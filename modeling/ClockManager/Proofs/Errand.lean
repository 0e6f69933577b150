import ClockManager.Proofs.Scope
/-!
# On whose behalf

Most of what the platform does follows from a message that has come in, though not always at once:
the hardware is called later, and a completion may bring the end later still. While a message is
assessed, what is asked is asked for that message. Once it has claimed the slot of a device, what is
done to the device is done for it, until another message claims the slot. An `Errand` is a message
with what has been heard about it, and both ways of acting for it are read off the events alone.
-/

namespace ClockManager

/-! ### Events with all that happened before -/

section Throughout

variable {allowed : List Event → Event → Prop} {past events more : List Event}

/-- Each event is allowed after the events before it. -/
abbrev Throughout (allowed : List Event → Event → Prop) (past events : List Event) : Prop :=
  Along (fun past event => past ++ [event]) allowed past events

theorem throughout_append : Throughout allowed past (events ++ more) ↔
    Throughout allowed past events ∧ Throughout allowed (past ++ events) more := by
  have hfoldl : events.foldl (fun past event => past ++ [event]) past = past ++ events := by
    induction events generalizing past with
    | nil => exact (List.append_nil past).symm
    | cons event rest ih => rw [List.foldl_cons, ih, List.append_assoc, List.singleton_append]
  rw [Throughout, along_append, hfoldl]

theorem throughout_iff : Throughout allowed past events ↔
    ∀ before event after, events = before ++ event :: after → allowed (past ++ before) event := by
  constructor
  · rintro h before event after rfl
    exact (throughout_append.1 h).2.1
  · intro h
    induction events generalizing past with
    | nil => exact trivial
    | cons event rest ih =>
      refine ⟨by simpa using h [] event rest rfl, ih ?_⟩
      rintro before other after rfl
      simpa using h (event :: before) other after rfl

/-- Where the last event of its sort stands in a list is determined by the list. -/
theorem eq_of_append_cons_eq {α : Type} {p : α → Prop} {first second after rest : List α}
    {x y : α} (h : first ++ x :: after = second ++ y :: rest) (hx : p x) (hy : p y)
    (hafter : ∀ z ∈ after, ¬ p z) (hrest : ∀ z ∈ rest, ¬ p z) :
    first = second ∧ x = y ∧ after = rest := by
  rcases List.append_eq_append_iff.1 h with ⟨between, rfl, htail⟩ | ⟨between, rfl, htail⟩
  · cases between with
    | nil =>
      obtain ⟨rfl, rfl⟩ := List.cons.inj htail
      exact ⟨(List.append_nil _).symm, rfl, rfl⟩
    | cons z between =>
      obtain ⟨-, rfl⟩ := List.cons.inj htail
      exact absurd hy (hafter y (by simp))
  · cases between with
    | nil =>
      obtain ⟨rfl, rfl⟩ := List.cons.inj htail
      exact ⟨List.append_nil _, rfl, rfl⟩
    | cons z between =>
      obtain ⟨-, rfl⟩ := List.cons.inj htail
      exact absurd hx (hrest x (by simp))

end Throughout

/-! ### Errands -/

/-- The device whose slot is claimed. -/
def Event.claimed? : Event → Option DeviceId
  | exchange ⟨.log notice, _⟩ => notice.claimed?
  | _ => none

theorem Event.claimed?_of_ends {owner : SlotOwner} {device : DeviceId} {made : Exchange}
    (h : made.query.Ends owner device) : (exchange made).claimed? = none := by
  obtain ⟨query, answer⟩ := made
  cases query with
  | log notice => exact h
  | _ => rfl

theorem Event.claimed?_of_assesses {clock? : Option PolicyContext} {made : Exchange}
    (h : made.query.Assesses clock?) : (exchange made).claimed? = none := by
  obtain ⟨query, answer⟩ := made
  cases query with
  | log notice => exact h
  | _ => rfl

theorem Event.claimed?_of_isPermission {made : Exchange} (h : made.query.isPermission) :
    (exchange made).claimed? = none := by
  obtain ⟨query, answer⟩ := made
  cases query with
  | log notice => simp [Query.isPermission] at h
  | _ => rfl

theorem Event.claimed?_of_touch? {made : Exchange} {touch : Touch} (h : made.touch? = some touch) :
    (exchange made).claimed? = none := by
  obtain ⟨query, answer⟩ := made
  cases query <;> simp_all [Exchange.touch?, Event.claimed?]

/-- A message, and what has been heard since it came in. -/
structure Errand where
  service : ServiceId
  raw : UInt32
  payload : Bytes
  heard : History

namespace Errand

variable {errand other : Errand} {device : DeviceId} {past more : List Event}

def events (errand : Errand) : List Event :=
  .message errand.service errand.raw errand.payload :: exchanges errand.heard

/-- The message is the last one that has come in, and what has happened since is what was heard. -/
def IsLatest (errand : Errand) (past : List Event) : Prop :=
  ∃ earlier, past = earlier ++ errand.events

/-- The message is the last one that has claimed the slot of a device. -/
def Holds (errand : Errand) (device : DeviceId) (past : List Event) : Prop :=
  ∃ earlier claim since, past = earlier ++ claim :: since ∧ errand.IsLatest earlier ∧
    claim.claimed? = some device ∧ ∀ event ∈ since, event.claimed? ≠ some device

theorem isLatest_append (service : ServiceId) (raw : UInt32) (payload : Bytes) (heard : History)
    (earlier : List Event) :
    IsLatest ⟨service, raw, payload, heard⟩
      (earlier ++ .message service raw payload :: exchanges heard) :=
  ⟨earlier, rfl⟩

/-- There is one last message. -/
theorem IsLatest.unique (h : errand.IsLatest past) (hother : other.IsLatest past) :
    errand = other := by
  obtain ⟨earlier, rfl⟩ := h
  obtain ⟨before, heq⟩ := hother
  have hquiet (history : History) :
      ∀ event ∈ exchanges history,
        ¬ ∃ service raw payload, event = .message service raw payload := by
    rintro event hmem ⟨service, raw, payload, rfl⟩
    exact not_message_mem_exchanges hmem
  obtain ⟨-, hmessage, hheard⟩ := eq_of_append_cons_eq heq ⟨_, _, _, rfl⟩ ⟨_, _, _, rfl⟩
    (hquiet _) (hquiet _)
  obtain ⟨service, raw, payload, heard⟩ := errand
  obtain ⟨service', raw', payload', heard'⟩ := other
  injection hmessage with hservice hraw hpayload
  rw [Errand.mk.injEq]
  exact ⟨hservice, hraw, hpayload, (List.map_inj_right fun _ _ => Event.exchange.inj).1 hheard⟩

/-- And there is one that holds a device. -/
theorem Holds.unique (h : errand.Holds device past) (hother : other.Holds device past) :
    errand = other := by
  obtain ⟨earlier, claim, since, rfl, hlatest, hclaim, hsince⟩ := h
  obtain ⟨before, found, later, heq, hlatest', hfound, hlater⟩ := hother
  obtain ⟨rfl, -, -⟩ := eq_of_append_cons_eq heq hclaim hfound hsince hlater
  exact hlatest.unique hlatest'

theorem Holds.append (h : errand.Holds device past)
    (unclaimed : ∀ event ∈ more, event.claimed? ≠ some device) :
    errand.Holds device (past ++ more) := by
  obtain ⟨earlier, claim, since, rfl, hlatest, hclaim, hsince⟩ := h
  refine ⟨earlier, claim, since ++ more, by simp, hlatest, hclaim, ?_⟩
  intro event hmem
  rcases List.mem_append.1 hmem with hmem | hmem
  · exact hsince event hmem
  · exact unclaimed event hmem

/-- What has been heard about the holder of a device has happened. -/
theorem Holds.mem_of_mem_heard {exchange : Exchange} (h : errand.Holds device past)
    (hmem : exchange ∈ errand.heard) : .exchange exchange ∈ past := by
  obtain ⟨_, claim, since, rfl, ⟨earlier, rfl⟩, -⟩ := h
  have : Event.exchange exchange ∈ errand.events :=
    List.mem_cons_of_mem _ (List.mem_map_of_mem hmem)
  simp [this]

end Errand
end ClockManager
