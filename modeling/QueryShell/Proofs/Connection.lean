import QueryShell.Connection
import QueryShell.Proofs.Client.Recording

/-!
# The state of a connection

A connection remembers two things, a way to a server and how the last attempt to
get one went, and it may be asked to connect and to disconnect in any order. The
two are meant to agree: a connection has a way to a server if it is connected,
and none if it has been disconnected or an attempt has failed.

A failure can break this in two ways. The way of an earlier attempt stays in its
place, whatever fails, and an attempt for which no way could be built leaves the
connection in the middle of connecting. So whether the two agree is decided by
the last event, and, if that is a failure, by whether there was a way before.
The way itself follows from the events alone: there is one exactly if an attempt
has succeeded and the connection has not been disconnected since.

## Main statements

* `change_perform`: what one request can do.
* `isUnbuilt_iff`: which attempts leave a connection in the middle of
  connecting.
* `Shows.run`: what a connection remembers of the events of a run.
* `coherent_iff`: when the way and the state agree.
-/

namespace QueryShell.Connection

variable {σ ω κ : Type}

/-! ## Requests -/

/-- **What a connection can be asked for.** Every attempt to connect has a
transport of its own, so that each of its steps may come out one time in one way
and another time in another. -/
inductive Request (σ ω κ : Type) where
  | connect (t : Transport σ ω κ)
  | disconnect

/-- **What a request has come to.** -/
inductive Event where
  | connected
  | disconnected
  | failed (e : ShellError)

/-- The events so far, the newest first. -/
abbrev History := List Event

/-- The event of an attempt to connect with that answer. -/
def Event.ofAnswer : Except ShellError Unit → Event
  | .ok () => .connected
  | .error e => .failed e

/-- The connection and the event after a request. -/
def perform (c : Connection κ) : Request σ ω κ → StateM σ (Connection κ × Event)
  | .connect t => do
    let (c, answer) ← c.connect t
    return (c, .ofAnswer answer)
  | .disconnect => return (c.disconnect, .disconnected)

/-- The connection and its history after some requests. -/
def run (c : Connection κ) (h : History) :
    List (Request σ ω κ) → StateM σ (Connection κ × History)
  | [] => return (c, h)
  | r :: rs => do
    let (c, e) ← c.perform r
    run c (e :: h) rs

/-! ## What one request can do -/

section

variable {t : Transport σ ω κ} {c : Connection κ} {s s' : σ} {options : ω} {reason : String} {way : κ}

/-- If the address cannot be read then the attempt has failed, and the
connection says so. -/
theorem connect_of_unreadable (hread : t.readUri c.settings.uri = .error reason) :
    c.connect t s =
      ((c.fail (.invalidUri s!"{c.settings.uri}: {reason}"),
        .error (.connection (.invalidUri s!"{c.settings.uri}: {reason}"))), s) := by
  unfold connect
  simp only [hread]
  rfl

/-- **If no way can be built then the attempt has failed, but the connection
does not say so**: it is left as it was while it was made. -/
theorem connect_of_unbuilt (hread : t.readUri c.settings.uri = .ok options)
    (hbuild : t.build (t.configure c.settings options) = .error reason) :
    c.connect t s =
      (({ c with state := .connecting }, .error (.connection (.connectionFailed reason))), s) := by
  unfold connect
  simp only [hread, hbuild]
  rfl

/-- If the ping is not answered then the attempt has failed, and the connection
says so. -/
theorem connect_of_unanswered (hread : t.readUri c.settings.uri = .ok options)
    (hbuild : t.build (t.configure c.settings options) = .ok way)
    (hping : t.ping way s = (.error reason, s')) :
    c.connect t s =
      ((c.fail (.pingFailed reason), .error (.connection (.pingFailed reason))), s') := by
  unfold connect
  simp only [hread, hbuild, bind, StateT.bind, hping]
  rfl

/-- If every step comes out well then the connection has a way and is
connected. -/
theorem connect_of_answered (hread : t.readUri c.settings.uri = .ok options)
    (hbuild : t.build (t.configure c.settings options) = .ok way)
    (hping : t.ping way s = (.ok (), s')) :
    c.connect t s = (({ c with way := some way, state := .connected }, .ok ()), s') := by
  unfold connect
  simp only [hread, hbuild, bind, StateT.bind, hping]
  rfl

end

/-- An attempt has failed since no way to a server could be built. -/
def isUnbuilt : ShellError → Bool
  | .connection (.connectionFailed _) => true
  | _ => false

/-- How a connection is left by an event. -/
def Event.state : Event → ConnectionState
  | .connected => .connected
  | .disconnected => .disconnected
  | .failed e => if isUnbuilt e then .connecting else .failed e.display

/-- **What one event changes.** A success brings a way of its own, and to
disconnect takes it away. A failure leaves the way in its place, whichever step
has failed: only the state is written. -/
inductive Change (c : Connection κ) : Event → Connection κ → Prop
  | connected (way : κ) : Change c .connected { c with way := some way, state := .connected }
  | disconnected : Change c .disconnected { c with way := none, state := .disconnected }
  | failed (e : ShellError) : Change c (.failed e) { c with state := (Event.failed e).state }

/-- An attempt to connect changes the connection as the event says that it has
come to. -/
theorem change_connect (t : Transport σ ω κ) (c : Connection κ) (s : σ) :
    Change c (.ofAnswer (c.connect t s).1.2) (c.connect t s).1.1 := by
  cases hread : t.readUri c.settings.uri with
  | error reason =>
    rw [connect_of_unreadable hread]
    exact .failed _
  | ok options =>
    cases hbuild : t.build (t.configure c.settings options) with
    | error reason =>
      rw [connect_of_unbuilt hread hbuild]
      exact .failed _
    | ok way =>
      rcases hping : t.ping way s with ⟨reason | _, s'⟩
      · rw [connect_of_unanswered hread hbuild hping]
        exact .failed _
      · rw [connect_of_answered hread hbuild hping]
        exact .connected way

/-- **What one request can do.** Whatever the transport answers, the connection
behind a request is the one before it with one event applied. All that follows
is proved of events, and no transport is looked at again. -/
theorem change_perform (c : Connection κ) (r : Request σ ω κ) (s : σ) :
    Change c (c.perform r s).1.2 (c.perform r s).1.1 := by
  cases r with
  | connect t => exact change_connect t c s
  | disconnect => exact .disconnected

/-- **An attempt fails for want of a way** exactly if its address can be read
and no way can be built from it. The two other failures, of an address that
cannot be read and of a ping that is not answered, are told apart from it by the
error alone. -/
theorem isUnbuilt_iff (t : Transport σ ω κ) (c : Connection κ) (s : σ) :
    (∃ e, (c.connect t s).1.2 = .error e ∧ isUnbuilt e = true) ↔
      ∃ options reason, t.readUri c.settings.uri = .ok options ∧
        t.build (t.configure c.settings options) = .error reason := by
  cases hread : t.readUri c.settings.uri with
  | error reason =>
    rw [connect_of_unreadable hread]
    simp [isUnbuilt]
  | ok options =>
    cases hbuild : t.build (t.configure c.settings options) with
    | error reason =>
      rw [connect_of_unbuilt hread hbuild]
      simp [isUnbuilt, hbuild]
    | ok way =>
      rcases hping : t.ping way s with ⟨reason | _, s'⟩
      · rw [connect_of_unanswered hread hbuild hping]
        simp [isUnbuilt, hbuild]
      · rw [connect_of_answered hread hbuild hping]
        simp [hbuild]

/-! ## What a connection remembers -/

namespace History

/-- **There is a way to a server**: an attempt has succeeded, and the connection
has not been disconnected since. Failures may lie in between, before and
behind. -/
def HoldsWay (h : History) : Prop :=
  ∃ later earlier, h = later ++ .connected :: earlier ∧ .disconnected ∉ later

/-- How the last event has left the connection. -/
def state : History → ConnectionState
  | [] => .disconnected
  | e :: _ => e.state

variable {h : History}

@[simp]
theorem not_holdsWay_nil : ¬HoldsWay [] := by
  rintro ⟨later, earlier, h, -⟩
  cases later <;> cases h

@[simp]
theorem holdsWay_connected : HoldsWay (.connected :: h) :=
  ⟨[], h, rfl, List.not_mem_nil⟩

@[simp]
theorem not_holdsWay_disconnected : ¬HoldsWay (.disconnected :: h) := by
  rintro ⟨_ | ⟨e, later⟩, earlier, heq, hnot⟩ <;> cases heq
  exact hnot List.mem_cons_self

@[simp]
theorem holdsWay_failed (e : ShellError) : HoldsWay (.failed e :: h) ↔ HoldsWay h := by
  constructor
  · rintro ⟨_ | ⟨e', later⟩, earlier, heq, hnot⟩ <;> cases heq
    exact ⟨later, earlier, rfl, fun hmem => hnot (List.mem_cons_of_mem _ hmem)⟩
  · rintro ⟨later, earlier, rfl, hnot⟩
    exact ⟨.failed e :: later, earlier, rfl, by simp [hnot]⟩

end History

/-- **A connection shows a history**: its way and its state are what the events
have left. The way needs the whole history, the state its last event only. -/
structure Shows (c : Connection κ) (h : History) : Prop where
  way_isSome : c.way.isSome = true ↔ h.HoldsWay
  state_eq : c.state = h.state

theorem shows_new (settings : ConnectionSettings) :
    Shows ({ settings } : Connection κ) [] where
  way_isSome := by simp
  state_eq := rfl

/-- **What a connection shows of a history goes on with each event.** This is
the step of the induction on runs. -/
theorem Change.shows {c c' : Connection κ} {h : History} {e : Event} (hc : Change c e c')
    (hs : c.Shows h) : c'.Shows (e :: h) := by
  cases hc with
  | connected way => exact ⟨by simp, rfl⟩
  | disconnected => exact ⟨by simp, rfl⟩
  | failed e => exact ⟨by rw [History.holdsWay_failed]; exact hs.way_isSome, rfl⟩

/-- **What a connection remembers of a run** is what the events say, by
induction on the requests. -/
theorem Shows.run {c : Connection κ} {h : History} (hs : c.Shows h) (rs : List (Request σ ω κ)) (s : σ) :
    (c.run h rs s).1.1.Shows (c.run h rs s).1.2 := by
  induction rs generalizing c h s with
  | nil => exact hs
  | cons r rs ih => exact ih ((change_perform c r s).shows hs) _

/-! ## When the way and the state agree -/

/-- **The way and the state agree.** -/
inductive IsCoherent : Option κ → ConnectionState → Prop
  | disconnected : IsCoherent none .disconnected
  | failed (message : String) : IsCoherent none (.failed message)
  | connected (way : κ) : IsCoherent (some way) .connected

/-- A connection that is connecting does not agree with any way, nor with
none. -/
@[simp]
theorem not_isCoherent_connecting (way : Option κ) : ¬IsCoherent way .connecting := nofun

@[simp]
theorem isCoherent_failed (way : Option κ) (message : String) :
    IsCoherent way (.failed message) ↔ way = none := by
  constructor
  · rintro ⟨⟩
    rfl
  · rintro rfl
    exact .failed message

variable {c : Connection κ} {h : History}

/-- There is no way exactly if the history holds none. -/
theorem Shows.way_eq_none_iff (hs : c.Shows h) : c.way = none ↔ ¬h.HoldsWay := by
  rw [← hs.way_isSome, Option.not_isSome_iff_eq_none]

/-- A client is handed out as long as there is a way. -/
theorem Shows.client_iff (hs : c.Shows h) (t : Transport σ ω κ) :
    (∃ client, c.client t = .ok client) ↔ h.HoldsWay := by
  rw [← hs.way_isSome, client, getWay]
  cases c.way <;> simp [Except.map]

/-- Behind a failure the way and the state agree if there was no way before and
the attempt did not fail for want of one. -/
theorem Shows.isCoherent_iff_of_failed {e : ShellError} (hs : c.Shows (.failed e :: h)) :
    IsCoherent c.way c.state ↔ isUnbuilt e = false ∧ ¬h.HoldsWay := by
  have hstate : c.state = if isUnbuilt e then .connecting else .failed e.display := hs.state_eq
  rw [← History.holdsWay_failed e, ← hs.way_eq_none_iff, hstate]
  cases isUnbuilt e <;> simp

/-- **When way and state agree**, by the last event: only a failure can keep
them from it, one for which no way could be built or one that has left a way in
its place. -/
theorem Shows.isCoherent_iff (hs : c.Shows h) : IsCoherent c.way c.state ↔
    ∀ e (earlier : History), h = .failed e :: earlier → isUnbuilt e = false ∧ ¬earlier.HoldsWay := by
  match h with
  | [] =>
    rw [hs.way_eq_none_iff.mpr History.not_holdsWay_nil, hs.state_eq]
    exact iff_of_true .disconnected fun e earlier h => by cases h
  | .disconnected :: _ =>
    rw [hs.way_eq_none_iff.mpr History.not_holdsWay_disconnected, hs.state_eq]
    exact iff_of_true .disconnected fun e earlier h => by cases h
  | .connected :: _ =>
    obtain ⟨way, hway⟩ := Option.isSome_iff_exists.mp (hs.way_isSome.mpr History.holdsWay_connected)
    rw [hway, hs.state_eq]
    exact iff_of_true (.connected way) fun e earlier h => by cases h
  | .failed e :: earlier =>
    rw [hs.isCoherent_iff_of_failed]
    constructor
    · rintro hc _ _ ⟨⟩
      exact hc
    · exact fun hc => hc e earlier rfl

/-- A client is handed out exactly by a connection that says it is connected,
except behind a failure that has left a way in its place. -/
theorem Shows.isConnected_iff_client (hs : c.Shows h) (t : Transport σ ω κ) :
    (c.isConnected = true ↔ ∃ client, c.client t = .ok client) ↔
      ∀ e (earlier : History), h = .failed e :: earlier → ¬earlier.HoldsWay := by
  rw [hs.client_iff, isConnected, beq_iff_eq, hs.state_eq]
  match h with
  | [] => simp [History.state]
  | .connected :: _ => simp [History.state, Event.state]
  | .disconnected :: _ => simp [History.state, Event.state]
  | .failed e :: earlier =>
    have hstate : History.state (.failed e :: earlier) ≠ .connected := by
      simp only [History.state, Event.state]
      split <;> nofun
    rw [iff_false_left hstate, History.holdsWay_failed]
    constructor
    · rintro hc _ _ ⟨⟩
      exact hc
    · exact fun hc => hc e earlier rfl

/-- **When the way and the state of a connection agree**, after any requests,
however the attempts to connect have come out. They do unless the last request
was an attempt that failed, and either no way could be built or there was a way
before. The second of these is also when a client is handed out though the
connection is not connected, and an attempt that fails leaves the connection
failed except for the first. -/
theorem coherent_iff (settings : ConnectionSettings) (rs : List (Request σ ω κ)) (s : σ)
    (hrun : (run { settings } [] rs s).1 = (c, h)) (t : Transport σ ω κ) :
    (c.way.isSome = true ↔ h.HoldsWay) ∧
    (IsCoherent c.way c.state ↔
      ∀ e (earlier : History), h = .failed e :: earlier → isUnbuilt e = false ∧ ¬earlier.HoldsWay) ∧
    ((c.isConnected = true ↔ ∃ client, c.client t = .ok client) ↔
      ∀ e (earlier : History), h = .failed e :: earlier → ¬earlier.HoldsWay) ∧
    ∀ e earlier, h = .failed e :: earlier →
      c.state = if isUnbuilt e then .connecting else .failed e.display := by
  have hs : c.Shows h := by
    have hs := (shows_new (κ := κ) settings).run rs s
    rwa [hrun] at hs
  refine ⟨hs.way_isSome, hs.isCoherent_iff, hs.isConnected_iff_client t, ?_⟩
  rintro e earlier rfl
  exact hs.state_eq

/-- A transport on which every step comes out as told, and whose clients find
nothing. -/
def told (address way answer : Except String Unit) : Transport Unit Unit Unit where
  readUri _ := address
  configure _ options := options
  build _ := way
  ping _ := pure answer
  client _ database := { Client.idle with database }

/-- A connection whose address can no longer be read keeps its way. -/
theorem coherent_iff_stale_way :
    let reached := told (.ok ()) (.ok ()) (.ok ())
    let misread := told (.error "no host") (.ok ()) (.ok ())
    ∃ (c : Connection Unit) (e : ShellError),
      (run { settings := {} } [] [.connect reached, .connect misread] ()).1 =
        (c, [.failed e, .connected]) ∧
      c.way.isSome = true ∧ ¬IsCoherent c.way c.state ∧
      ¬(c.isConnected = true ↔ ∃ client, c.client reached = .ok client) ∧
      c.state = .failed e.display := by
  intro reached misread
  refine ⟨_, _, rfl, ?_⟩
  obtain ⟨hway, hcoherent, hclient, hstate⟩ :=
    coherent_iff {} [.connect reached, .connect misread] () rfl reached
  have hholds : History.HoldsWay [.connected] := History.holdsWay_connected
  refine ⟨hway.mpr ((History.holdsWay_failed _).mpr hholds), fun h => ?_, fun h => ?_, hstate _ _ rfl⟩
  · exact (hcoherent.mp h _ _ rfl).2 hholds
  · exact hclient.mp h _ _ rfl hholds

/-- An attempt that fails since no way can be built leaves the connection in the
middle of connecting. -/
theorem not_coherent :
    ¬∀ (settings : ConnectionSettings) (rs : List (Request Unit Unit Unit)) (s : Unit)
      (c : Connection Unit) (h : History), (run { settings } [] rs s).1 = (c, h) →
      IsCoherent c.way c.state ∧
      (∀ t : Transport Unit Unit Unit,
        c.isConnected = true ↔ ∃ client, c.client t = .ok client) ∧
      ∀ e earlier, h = .failed e :: earlier → ∃ message, c.state = .failed message := by
  intro hclaim
  obtain ⟨-, -, hfailed⟩ :=
    hclaim {} [.connect (told (.ok ()) (.error "no certificates") (.ok ()))] () _ _ rfl
  obtain ⟨message, hstate⟩ := hfailed _ _ rfl
  cases hstate

end QueryShell.Connection
