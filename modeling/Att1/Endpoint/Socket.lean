import Att1.Lib.Pipe
import Att1.Lib.Runs
import Mathlib.Algebra.Order.Ring.Nat
import Mathlib.Data.List.Infix

/-!
# Att1.Endpoint.Socket — calls over a stream socket

`src/aimu_endpoint_protocol.c`, `endpoint_roundtrip` of `src/aimu_endpoint_client.c` and `serve_client` of
`tools/att1-aimu-endpoint.c`: a client and a daemon that exchange messages of fixed sizes over a byte stream, which
splits them into chunks as it likes.  One step is one round of a loop, so a run is any interleaving of the two.

What the daemon does with a request is the parameter `dispatch`: a run of `Direct` is a session on the endpoint with no
socket in between.
-/

open Att1.Lib

namespace Att1.Endpoint

/-! ### The connection -/

/-- A message: the bytes of a struct. -/
structure Frame (size : ℕ) where
  bytes : List UInt8
  length_eq : bytes.length = size

/-- Where `endpoint_roundtrip` is. -/
inductive ClientPhase
  | idle
  | sending
  | receiving
  deriving DecidableEq

/-- Where `serve_client` is; the answer to a shutdown is its last. -/
inductive DaemonPhase
  | receiving
  | sending (shutdown : Bool)
  | ended
  deriving DecidableEq

/-- The endpoint, both programs and the two directions of the stream between them. -/
structure Connection (σ : Type) where
  endpoint : σ
  client : ClientPhase := .idle
  daemon : DaemonPhase := .receiving
  up : Pipe UInt8 := {}
  down : Pipe UInt8 := {}

/-- What a caller sees: its call, and how the call ends.  It is hung up if the daemon has closed its end, and has failed
if a `send` or a `read` went wrong in another way; both return `ATT1_ERR_IO`. -/
inductive SocketEvent (reqSize respSize : ℕ)
  | call (request : Frame reqSize)
  | answered (response : Frame respSize)
  | hungUp
  | failed
  | internal

variable {σ : Type} {reqSize respSize : ℕ}

/-- The connection when a call has ended. -/
def Connection.returned (c : Connection σ) : Connection σ :=
  { c with client := .idle, up := { c.up with rest := [] }, down := c.down.clear }

/-- One round of a loop of the client or the daemon.  A round that moves no byte is one that was interrupted (`EINTR`);
the daemon may end at any time. -/
inductive SocketStep (dispatch : σ → Frame reqSize → σ → Frame respSize → Bool → Prop) :
    Connection σ → SocketEvent reqSize respSize → Connection σ → Prop
  | call {c : Connection σ} (request : Frame reqSize) (hidle : c.client = .idle) :
      SocketStep dispatch c (.call request)
        { c with client := .sending, up := { c.up with rest := request.bytes }, down := c.down.clear }
  | clientSend {c : Connection σ} (k : ℕ) (hclient : c.client = .sending) (hk : k ≤ c.up.rest.length) :
      SocketStep dispatch c .internal { c with up := c.up.send k }
  | clientSent {c : Connection σ} (hclient : c.client = .sending) (hrest : c.up.rest = []) :
      SocketStep dispatch c .internal { c with client := .receiving }
  | clientRecv {c : Connection σ} (k : ℕ) (hclient : c.client = .receiving) (hk : k ≤ c.down.flight.length)
      (hroom : c.down.got.length + k ≤ respSize) : SocketStep dispatch c .internal { c with down := c.down.recv k }
  | answered {c : Connection σ} (response : Frame respSize) (hclient : c.client = .receiving)
      (hgot : c.down.got = response.bytes) : SocketStep dispatch c (.answered response) c.returned
  | hungUp {c : Connection σ} (hended : c.daemon = .ended)
      (hclient : c.client = .sending ∧ c.up.rest ≠ [] ∨
        c.client = .receiving ∧ c.down.flight = [] ∧ c.down.got.length < respSize) :
      SocketStep dispatch c .hungUp c.returned
  | failed {c : Connection σ} (hclient : c.client ≠ .idle) : SocketStep dispatch c .failed c.returned
  | daemonRecv {c : Connection σ} (k : ℕ) (hdaemon : c.daemon = .receiving) (hk : k ≤ c.up.flight.length)
      (hroom : c.up.got.length + k ≤ reqSize) : SocketStep dispatch c .internal { c with up := c.up.recv k }
  | dispatched {c : Connection σ} {request : Frame reqSize} {endpoint : σ} {response : Frame respSize}
      {shutdown : Bool} (hdaemon : c.daemon = .receiving) (hgot : c.up.got = request.bytes)
      (hdispatch : dispatch c.endpoint request endpoint response shutdown) :
      SocketStep dispatch c .internal
        { c with
          endpoint := endpoint
          daemon := .sending shutdown
          up := c.up.clear
          down := { c.down with rest := response.bytes } }
  | daemonSend {c : Connection σ} {shutdown : Bool} (k : ℕ) (hdaemon : c.daemon = .sending shutdown)
      (hk : k ≤ c.down.rest.length) : SocketStep dispatch c .internal { c with down := c.down.send k }
  | daemonSent {c : Connection σ} {shutdown : Bool} (hdaemon : c.daemon = .sending shutdown)
      (hrest : c.down.rest = []) :
      SocketStep dispatch c .internal { c with daemon := if shutdown then .ended else .receiving }
  | daemonEnded {c : Connection σ} : SocketStep dispatch c .internal { c with daemon := .ended }

/-- One call with no socket in between: the request and its answer. -/
def Direct (dispatch : σ → Frame reqSize → σ → Frame respSize → Bool → Prop) (s : σ)
    (e : Frame reqSize × Frame respSize) (s' : σ) : Prop :=
  ∃ shutdown, dispatch s e.1 s' e.2 shutdown

/-! ### What the caller sees -/

/-- The request, if the event starts a call. -/
def SocketEvent.request : SocketEvent reqSize respSize → Option (Frame reqSize)
  | .call request => some request
  | _ => none

/-- What the call returns, if the event ends one. -/
def SocketEvent.result : SocketEvent reqSize respSize → Option (Option (Frame respSize))
  | .answered response => some (some response)
  | .hungUp => some none
  | .failed => some none
  | _ => none

/-- The requests of the calls, in order. -/
def requests (es : List (SocketEvent reqSize respSize)) : List (Frame reqSize) := es.filterMap SocketEvent.request

/-- What the calls returned, in order. -/
def results (es : List (SocketEvent reqSize respSize)) : List (Option (Frame respSize)) :=
  es.filterMap SocketEvent.result

theorem requests_snoc (es : List (SocketEvent reqSize respSize)) (e : SocketEvent reqSize respSize) :
    requests (es ++ [e]) = requests es ++ e.request.toList := by
  unfold requests
  rw [List.filterMap_append]
  cases h : e.request <;> simp [h]

theorem results_snoc (es : List (SocketEvent reqSize respSize)) (e : SocketEvent reqSize respSize) :
    results (es ++ [e]) = results es ++ e.result.toList := by
  unfold results
  rw [List.filterMap_append]
  cases h : e.result <;> simp [h]

/-! ### How far a call is -/

/-- No call under way; one that the daemon has not dispatched; one that it has; or a call has been hung up. -/
inductive Stage (reqSize respSize : ℕ)
  | idle
  | asked (request : Frame reqSize)
  | served (request : Frame reqSize) (response : Frame respSize)
  | lost (request : Frame reqSize)

variable {dispatch : σ → Frame reqSize → σ → Frame respSize → Bool → Prop} {c c' : Connection σ} {s s₀ : σ}
  {request : Frame reqSize} {response : Frame respSize} {es : List (SocketEvent reqSize respSize)}

/-- The connection at a stage, where the answered calls have brought the endpoint to `s`. -/
inductive AtStage (dispatch : σ → Frame reqSize → σ → Frame respSize → Bool → Prop) (c : Connection σ) (s : σ) :
    Stage reqSize respSize → Prop
  | idle (hclient : c.client = .idle) (hendpoint : c.endpoint = s) (hgot : c.down.got = [])
      (hflight : c.down.flight = []) (halive : c.daemon ≠ .ended → c.up.all = [] ∧ c.down.rest = []) :
      AtStage dispatch c s .idle
  | asked {request : Frame reqSize} (hclient : c.client ≠ .idle) (hsent : c.client = .receiving → c.up.rest = [])
      (hendpoint : c.endpoint = s) (hgot : c.down.got = []) (hflight : c.down.flight = [])
      (halive : c.daemon ≠ .ended → c.up.all = request.bytes ∧ c.down.rest = []) : AtStage dispatch c s (.asked request)
  | served {request : Frame reqSize} {response : Frame respSize} (hclient : c.client ≠ .idle)
      (hdirect : Direct dispatch s (request, response) c.endpoint) (hup : c.up.all = [])
      (hdown : c.down.all = response.bytes) (hsent : c.daemon = .receiving → c.down.rest = []) :
      AtStage dispatch c s (.served request response)
  | lost {request : Frame reqSize} (hended : c.daemon = .ended)
      (hendpoint : c.endpoint = s ∨ ∃ response, Direct dispatch s (request, response) c.endpoint)
      (hgot : c.down.got = []) (hflight : c.down.flight = []) : AtStage dispatch c s (.lost request)

/-- What the caller has seen when the calls `pairs` have been answered. -/
def Seen (es : List (SocketEvent reqSize respSize)) (pairs : List (Frame reqSize × Frame respSize))
    (client : ClientPhase) : Stage reqSize respSize → Prop
  | .idle => requests es = pairs.map Prod.fst ∧ results es = pairs.map fun p => some p.2
  | .asked request => requests es = pairs.map Prod.fst ++ [request] ∧ results es = pairs.map fun p => some p.2
  | .served request _ => requests es = pairs.map Prod.fst ++ [request] ∧ results es = pairs.map fun p => some p.2
  | .lost request => ∃ later failures, requests es = pairs.map Prod.fst ++ request :: later ∧
      results es = (pairs.map fun p => some p.2) ++ List.replicate failures none ∧
      later.length + 1 = failures + (if client = .idle then 0 else 1)

/-- The invariant: the calls that were answered are a direct session, and the connection is at a stage after them. -/
def Synced (dispatch : σ → Frame reqSize → σ → Frame respSize → Bool → Prop) (s₀ : σ)
    (es : List (SocketEvent reqSize respSize)) (c : Connection σ) : Prop :=
  ∃ pairs s stage, Run (Direct dispatch) s₀ pairs s ∧ AtStage dispatch c s stage ∧ Seen es pairs c.client stage

/-! ### One round -/

theorem Frame.ne_nil {size : ℕ} [NeZero size] (f : Frame size) : f.bytes ≠ [] := fun h =>
  NeZero.ne size (by rw [← f.length_eq, h]; rfl)

theorem Frame.eq_of_bytes {size : ℕ} {f g : Frame size} (h : f.bytes = g.bytes) : f = g := by
  cases f
  cases g
  cases h
  rfl

/-- A round that the caller does not see. -/
theorem Seen.internal {pairs : List (Frame reqSize × Frame respSize)} {client client' : ClientPhase}
    {stage : Stage reqSize respSize} (h : Seen es pairs client stage) (hclient : client = .idle ↔ client' = .idle) :
    Seen (es ++ [.internal]) pairs client' stage := by
  have hrequests : requests (es ++ [SocketEvent.internal]) = requests es :=
    (requests_snoc es _).trans (List.append_nil _)
  have hresults : results (es ++ [SocketEvent.internal]) = results es := (results_snoc es _).trans (List.append_nil _)
  cases stage with
  | lost request =>
    obtain ⟨later, failures, h1, h2, h3⟩ := h
    refine ⟨later, failures, hrequests.trans h1, hresults.trans h2, h3.trans ?_⟩
    rw [if_congr hclient rfl rfl]
  | idle => exact ⟨hrequests.trans h.1, hresults.trans h.2⟩
  | asked request => exact ⟨hrequests.trans h.1, hresults.trans h.2⟩
  | served request response => exact ⟨hrequests.trans h.1, hresults.trans h.2⟩

theorem ne_idle_iff {client client' : ClientPhase} (h : client ≠ .idle) (h' : client' ≠ .idle) :
    client = .idle ↔ client' = .idle := iff_of_false h h'

/-- The client moves on within a call. -/
theorem Synced.of_client (hi : Synced dispatch s₀ es c) (hclient : c.client ≠ .idle) (hclient' : c'.client ≠ .idle)
    (hstage : ∀ s stage, AtStage dispatch c s stage → AtStage dispatch c' s stage) :
    Synced dispatch s₀ (es ++ [.internal]) c' := by
  obtain ⟨pairs, s, stage, hr, hat, hseen⟩ := hi
  exact ⟨pairs, s, stage, hr, hstage s stage hat, hseen.internal (ne_idle_iff hclient hclient')⟩

/-- The daemon moves on, the client stays where it is. -/
theorem Synced.of_daemon (hi : Synced dispatch s₀ es c) (hclient : c'.client = c.client)
    (hstage : ∀ s stage, AtStage dispatch c s stage → ∃ stage', AtStage dispatch c' s stage' ∧
      ∀ pairs client, Seen (es ++ [.internal]) pairs client stage → Seen (es ++ [.internal]) pairs client stage') :
    Synced dispatch s₀ (es ++ [.internal]) c' := by
  obtain ⟨pairs, s, stage, hr, hat, hseen⟩ := hi
  obtain ⟨stage', hat', hsame⟩ := hstage s stage hat
  exact ⟨pairs, s, stage', hr, hat', hsame _ _ (hseen.internal (by rw [hclient]))⟩

/-- **One round** keeps the invariant, unless a `send` or a `read` goes wrong on a live connection. -/
theorem step_synced [NeZero reqSize] [NeZero respSize] {e : SocketEvent reqSize respSize}
    (hi : Synced dispatch s₀ es c) (hs : SocketStep dispatch c e c') (hf : e ≠ .failed) :
    Synced dispatch s₀ (es ++ [e]) c' := by
  cases hs with
  | call request hidle =>
    obtain ⟨pairs, s, stage, hr, hat, hseen⟩ := hi
    have hrequests := requests_snoc es (SocketEvent.call request)
    have hresults : results (es ++ [SocketEvent.call request]) = results es :=
      (results_snoc es _).trans (List.append_nil _)
    cases hat with
    | idle _ hendpoint hgot hflight halive =>
      refine ⟨pairs, s, .asked request, hr, ?_, hrequests.trans (by rw [hseen.1]; rfl), hresults.trans hseen.2⟩
      refine .asked ClientPhase.noConfusion (fun h => ClientPhase.noConfusion h) hendpoint rfl hflight fun hne => ?_
      obtain ⟨hup, hrest⟩ := halive hne
      obtain ⟨hgot', hflight', -⟩ := Pipe.all_eq_nil hup
      refine ⟨?_, hrest⟩
      show c.up.got ++ c.up.flight ++ request.bytes = request.bytes
      rw [hgot', hflight', List.nil_append, List.nil_append]
    | asked hclient => exact absurd hidle hclient
    | served hclient => exact absurd hidle hclient
    | @lost first hended hendpoint _ hflight =>
      obtain ⟨later, failures, h1, h2, h3⟩ := hseen
      refine ⟨pairs, s, .lost first, hr, .lost hended hendpoint rfl hflight, later ++ [request], failures, ?_,
        hresults.trans h2, ?_⟩
      · rw [hrequests, h1]
        simp [SocketEvent.request]
      · rw [hidle, if_pos rfl] at h3
        rw [List.length_append, List.length_singleton, if_neg ClientPhase.noConfusion]
        omega
  | clientSend k hclient hk =>
    have hne : c.client ≠ .idle := by rw [hclient]; exact ClientPhase.noConfusion
    refine hi.of_client hne hne fun s stage hat => ?_
    cases hat with
    | idle hidle => rw [hclient] at hidle; cases hidle
    | asked hne hsent hendpoint hgot hflight halive =>
      refine .asked hne (fun h => ?_) hendpoint hgot hflight fun hlive => ?_
      · rw [hclient] at h
        cases h
      · exact ⟨(Pipe.all_send _ k).trans (halive hlive).1, (halive hlive).2⟩
    | served hne hdirect hup hdown hsent => exact .served hne hdirect ((Pipe.all_send _ k).trans hup) hdown hsent
    | lost hended hendpoint hgot hflight => exact .lost hended hendpoint hgot hflight
  | clientSent hclient hrest =>
    refine hi.of_client (by rw [hclient]; exact ClientPhase.noConfusion) ClientPhase.noConfusion fun s stage hat => ?_
    cases hat with
    | idle hidle => rw [hclient] at hidle; cases hidle
    | asked hne hsent hendpoint hgot hflight halive =>
      exact .asked ClientPhase.noConfusion (fun _ => hrest) hendpoint hgot hflight halive
    | served hne hdirect hup hdown hsent => exact .served ClientPhase.noConfusion hdirect hup hdown hsent
    | lost hended hendpoint hgot hflight => exact .lost hended hendpoint hgot hflight
  | clientRecv k hclient hk hroom =>
    have hnone : c.down.got = [] → c.down.flight = [] → (c.down.recv k).got = [] ∧ (c.down.recv k).flight = [] := by
      intro hgot hflight
      unfold Pipe.recv
      rw [hgot, hflight]
      exact ⟨List.take_nil, List.drop_nil⟩
    have hne : c.client ≠ .idle := by rw [hclient]; exact ClientPhase.noConfusion
    refine hi.of_client hne hne fun s stage hat => ?_
    cases hat with
    | idle hidle => rw [hclient] at hidle; cases hidle
    | asked hne hsent hendpoint hgot hflight halive =>
      exact .asked hne hsent hendpoint (hnone hgot hflight).1 (hnone hgot hflight).2 halive
    | served hne hdirect hup hdown hsent => exact .served hne hdirect hup ((Pipe.all_recv _ k).trans hdown) hsent
    | lost hended hendpoint hgot hflight => exact .lost hended hendpoint (hnone hgot hflight).1 (hnone hgot hflight).2
  | answered response hclient hgot =>
    obtain ⟨pairs, s, stage, hr, hat, hseen⟩ := hi
    cases hat with
    | idle hidle => rw [hclient] at hidle; cases hidle
    | asked _ _ _ hempty => exact absurd (hgot.symm.trans hempty) response.ne_nil
    | @served request response' hne hdirect hup hdown hsent =>
      have hlength : c.down.got.length = c.down.all.length := by
        rw [hgot, hdown, response.length_eq, response'.length_eq]
      obtain ⟨hall, hflight, hrest⟩ := Pipe.arrived hlength
      obtain rfl : response = response' := Frame.eq_of_bytes (hgot.symm.trans (hall.trans hdown))
      obtain ⟨hgot', hflight', -⟩ := Pipe.all_eq_nil hup
      refine ⟨pairs ++ [(request, response)], c.endpoint, .idle, hr.snoc hdirect, ?_, ?_, ?_⟩
      · refine .idle rfl rfl rfl hflight fun _ => ⟨?_, hrest⟩
        show c.up.got ++ c.up.flight ++ [] = []
        rw [hgot', hflight']
        rfl
      · rw [requests_snoc, hseen.1, List.map_append]
        exact List.append_nil _
      · rw [results_snoc, hseen.2, List.map_append]
        rfl
    | lost _ _ hempty => exact absurd (hgot.symm.trans hempty) response.ne_nil
  | hungUp hended hclient =>
    obtain ⟨pairs, s, stage, hr, hat, hseen⟩ := hi
    have hne : c.client ≠ .idle := by
      rcases hclient with ⟨h, -⟩ | ⟨h, -⟩ <;> rw [h] <;> exact ClientPhase.noConfusion
    have hrequests : requests (es ++ [SocketEvent.hungUp]) = requests es :=
      (requests_snoc es _).trans (List.append_nil _)
    have hresults := results_snoc es (SocketEvent.hungUp : SocketEvent reqSize respSize)
    cases hat with
    | idle hidle => exact absurd hidle hne
    | @asked request _ _ hendpoint _ hflight =>
      refine ⟨pairs, s, .lost request, hr, .lost hended (Or.inl hendpoint) rfl hflight, [], 1,
        hrequests.trans hseen.1, ?_, rfl⟩
      rw [hresults, hseen.2]
      rfl
    | @served request response _ hdirect hup _ _ =>
      have hflight : c.down.flight = [] := by
        rcases hclient with ⟨-, h⟩ | ⟨-, h, -⟩
        · exact absurd (Pipe.all_eq_nil hup).2.2 h
        · exact h
      refine ⟨pairs, s, .lost request, hr, .lost hended (Or.inr ⟨response, hdirect⟩) rfl hflight, [], 1,
        hrequests.trans hseen.1, ?_, rfl⟩
      rw [hresults, hseen.2]
      rfl
    | @lost request _ hendpoint _ hflight =>
      obtain ⟨later, failures, h1, h2, h3⟩ := hseen
      refine ⟨pairs, s, .lost request, hr, .lost hended hendpoint rfl hflight, later, failures + 1, hrequests.trans h1,
        ?_, ?_⟩
      · rw [hresults, h2, List.append_assoc, List.replicate_succ']
        rfl
      · rw [if_neg hne] at h3
        exact h3
  | failed hclient => exact absurd rfl hf
  | daemonRecv k hdaemon hk hroom =>
    refine hi.of_daemon rfl fun s stage hat => ⟨stage, ?_, fun _ _ h => h⟩
    cases hat with
    | idle hidle hendpoint hgot hflight halive =>
      exact .idle hidle hendpoint hgot hflight fun hne => ⟨(Pipe.all_recv _ k).trans (halive hne).1, (halive hne).2⟩
    | asked hne hsent hendpoint hgot hflight halive =>
      exact .asked hne hsent hendpoint hgot hflight fun hlive =>
        ⟨(Pipe.all_recv _ k).trans (halive hlive).1, (halive hlive).2⟩
    | served hne hdirect hup hdown hsent => exact .served hne hdirect ((Pipe.all_recv _ k).trans hup) hdown hsent
    | lost hended => rw [hdaemon] at hended; cases hended
  | @dispatched request endpoint response shutdown hdaemon hgot hdispatch =>
    have halive : c.daemon ≠ .ended := by rw [hdaemon]; exact DaemonPhase.noConfusion
    refine hi.of_daemon rfl fun s stage hat => ?_
    cases hat with
    | idle _ _ _ _ hall => exact absurd (hgot.symm.trans (Pipe.all_eq_nil (hall halive).1).1) request.ne_nil
    | @asked request' hne _ hendpoint hdown hflight hall =>
      obtain ⟨hup, -⟩ := hall halive
      have hlength : c.up.got.length = c.up.all.length := by
        rw [hgot, hup, request.length_eq, request'.length_eq]
      obtain ⟨harrived, hflight', hrest'⟩ := Pipe.arrived hlength
      obtain rfl : request = request' := Frame.eq_of_bytes (hgot.symm.trans (harrived.trans hup))
      refine ⟨.served request response, ?_, fun _ _ h => h⟩
      refine .served hne ⟨shutdown, hendpoint ▸ hdispatch⟩ ?_ ?_ fun h => DaemonPhase.noConfusion h
      · show [] ++ c.up.flight ++ c.up.rest = []
        rw [hflight', hrest']
        rfl
      · show c.down.got ++ c.down.flight ++ response.bytes = response.bytes
        rw [hdown, hflight]
        rfl
    | served _ _ hup => exact absurd (hgot.symm.trans (Pipe.all_eq_nil hup).1) request.ne_nil
    | lost hended => exact absurd hended halive
  | @daemonSend shutdown k hdaemon hk =>
    have halive : c.daemon ≠ .ended := by rw [hdaemon]; exact DaemonPhase.noConfusion
    have hnone : c.down.rest = [] → c.down.flight = [] → (c.down.send k).flight = [] ∧ (c.down.send k).rest = [] := by
      intro hrest hflight
      unfold Pipe.send
      rw [hrest, hflight]
      exact ⟨List.take_nil, List.drop_nil⟩
    refine hi.of_daemon rfl fun s stage hat => ⟨stage, ?_, fun _ _ h => h⟩
    cases hat with
    | idle hidle hendpoint hgot hflight hall =>
      obtain ⟨hup, hrest⟩ := hall halive
      exact .idle hidle hendpoint hgot (hnone hrest hflight).1 fun _ => ⟨hup, (hnone hrest hflight).2⟩
    | asked hne hsent hendpoint hgot hflight hall =>
      obtain ⟨hup, hrest⟩ := hall halive
      exact .asked hne hsent hendpoint hgot (hnone hrest hflight).1 fun _ => ⟨hup, (hnone hrest hflight).2⟩
    | served hne hdirect hup hdown hsent =>
      refine .served hne hdirect hup ((Pipe.all_send _ k).trans hdown) fun h => ?_
      rw [hdaemon] at h
      cases h
    | lost hended => exact absurd hended halive
  | @daemonSent shutdown hdaemon hrest =>
    have halive : c.daemon ≠ .ended := by rw [hdaemon]; exact DaemonPhase.noConfusion
    refine hi.of_daemon rfl fun s stage hat => ⟨stage, ?_, fun _ _ h => h⟩
    cases hat with
    | idle hidle hendpoint hgot hflight hall => exact .idle hidle hendpoint hgot hflight fun _ => hall halive
    | asked hne hsent hendpoint hgot hflight hall => exact .asked hne hsent hendpoint hgot hflight fun _ => hall halive
    | served hne hdirect hup hdown _ => exact .served hne hdirect hup hdown fun _ => hrest
    | lost hended => exact absurd hended halive
  | daemonEnded =>
    refine hi.of_daemon rfl fun s stage hat => ⟨stage, ?_, fun _ _ h => h⟩
    cases hat with
    | idle hidle hendpoint hgot hflight _ => exact .idle hidle hendpoint hgot hflight fun h => absurd rfl h
    | asked hne hsent hendpoint hgot hflight _ => exact .asked hne hsent hendpoint hgot hflight fun h => absurd rfl h
    | served hne hdirect hup hdown _ => exact .served hne hdirect hup hdown fun h => DaemonPhase.noConfusion h
    | lost _ hendpoint hgot hflight => exact .lost rfl hendpoint hgot hflight

/-! ### Runs -/

theorem run_synced [NeZero reqSize] [NeZero respSize] (hr : Run (SocketStep dispatch) { endpoint := s₀ } es c)
    (hf : SocketEvent.failed ∉ es) : Synced dispatch s₀ es c := by
  refine @Run.invariant _ _ _ _ _ _ (fun es c => SocketEvent.failed ∉ es → Synced dispatch s₀ es c) ?_ ?_ hr hf
  · exact fun _ => ⟨[], s₀, .idle, Run.nil, .idle rfl rfl rfl rfl fun _ => ⟨rfl, rfl⟩, rfl, rfl⟩
  · intro es c e c' _ hi hs hf
    rw [List.mem_append, not_or] at hf
    exact step_synced (hi hf.1) hs fun he => hf.2 (he ▸ List.mem_singleton.mpr rfl)

/-- **The socket is not there.**  However the stream splits the messages, however the two programs are interleaved and
whenever the daemon ends: the calls that were answered are a session on the endpoint itself, in their order, with the
same answers; all later calls are hung up, and of these the endpoint has served the first at most, and that once. -/
theorem socket_serves [NeZero reqSize] [NeZero respSize] (hr : Run (SocketStep dispatch) { endpoint := s₀ } es c)
    (hf : SocketEvent.failed ∉ es) :
    ∃ pairs s later failures, Run (Direct dispatch) s₀ pairs s ∧
      requests es = pairs.map Prod.fst ++ later ∧
      results es = (pairs.map fun p => some p.2) ++ List.replicate failures none ∧
      failures ≤ later.length ∧ later.length ≤ failures + 1 ∧
      (c.endpoint = s ∨
        ∃ request response, later.head? = some request ∧ Direct dispatch s (request, response) c.endpoint) := by
  obtain ⟨pairs, s, stage, hdirect, hat, hseen⟩ := run_synced hr hf
  cases hat with
  | idle _ hendpoint =>
    refine ⟨pairs, s, [], 0, hdirect, ?_, ?_, le_rfl, Nat.zero_le _, Or.inl hendpoint⟩
    · exact hseen.1.trans (List.append_nil _).symm
    · exact hseen.2.trans (List.append_nil _).symm
  | @asked request _ _ hendpoint =>
    refine ⟨pairs, s, [request], 0, hdirect, hseen.1, ?_, Nat.zero_le _, le_rfl, Or.inl hendpoint⟩
    exact hseen.2.trans (List.append_nil _).symm
  | @served request response _ hserved =>
    refine ⟨pairs, s, [request], 0, hdirect, hseen.1, ?_, Nat.zero_le _, le_rfl,
      Or.inr ⟨request, response, rfl, hserved⟩⟩
    exact hseen.2.trans (List.append_nil _).symm
  | @lost request _ hendpoint =>
    obtain ⟨later, failures, h1, h2, h3⟩ := hseen
    refine ⟨pairs, s, request :: later, failures, hdirect, h1, h2, ?_, ?_, ?_⟩
    · rw [List.length_cons, h3]
      exact Nat.le_add_right _ _
    · rw [List.length_cons, h3]
      split_ifs <;> omega
    · rcases hendpoint with h | ⟨response, hserved⟩
      · exact Or.inl h
      · exact Or.inr ⟨request, response, rfl, hserved⟩

/-- An endpoint that counts the requests and answers with their number. -/
def counting (s : ℕ) (_ : Frame 2) (s' : ℕ) (response : Frame 1) (shutdown : Bool) : Prop :=
  s' = s + 1 ∧ response.bytes = [UInt8.ofNat s'] ∧ shutdown = false

/-- A request. -/
def ping : Frame 2 := ⟨[5, 6], rfl⟩

/-- A call that is sent in two chunks, and one that the daemon does not live to serve. -/
def twoCalls : List (SocketEvent 2 1) :=
  [.call ping, .internal, .internal, .internal, .internal, .internal, .internal, .internal, .internal,
    .answered ⟨[1], rfl⟩, .internal, .call ping, .hungUp]

theorem twoCalls_run : ∃ c, Run (SocketStep counting) { endpoint := 0 } twoCalls c :=
  ⟨_, Run.cons (.call ping rfl) <| Run.cons (.clientSend 1 rfl (by decide)) <|
    Run.cons (.daemonRecv 1 rfl (by decide) (by decide)) <| Run.cons (.clientSend 1 rfl (by decide)) <|
    Run.cons (.daemonRecv 1 rfl (by decide) (by decide)) <|
    Run.cons (@SocketStep.dispatched _ _ _ counting _ ping _ ⟨[1], rfl⟩ _ rfl rfl ⟨rfl, rfl, rfl⟩) <|
    Run.cons (.daemonSend 1 rfl (by decide)) <| Run.cons (.clientSent rfl rfl) <|
    Run.cons (.clientRecv 1 rfl (by decide) (by decide)) <| Run.cons (.answered _ rfl rfl) <|
    Run.cons .daemonEnded <| Run.cons (.call ping rfl) <|
    Run.cons (.hungUp rfl (Or.inl ⟨rfl, List.cons_ne_nil _ _⟩)) Run.nil⟩

/-- The second call is lost, the first stays served. -/
theorem socket_serves_twoCalls : ∃ c, Run (SocketStep counting) { endpoint := 0 } twoCalls c ∧
    ∃ pairs s later failures, Run (Direct counting) 0 pairs s ∧
      requests twoCalls = pairs.map Prod.fst ++ later ∧
      results twoCalls = (pairs.map fun p => some p.2) ++ List.replicate failures none ∧
      failures ≤ later.length ∧ later.length ≤ failures + 1 ∧
      (c.endpoint = s ∨
        ∃ request response, later.head? = some request ∧ Direct counting s (request, response) c.endpoint) := by
  obtain ⟨c, hr⟩ := twoCalls_run
  exact ⟨c, hr, socket_serves hr (by simp [twoCalls])⟩

/-! ### No call is stuck -/

/-- Some rounds of the two programs end the call with an answer. -/
def Completes (dispatch : σ → Frame reqSize → σ → Frame respSize → Bool → Prop) (c : Connection σ) : Prop :=
  ∃ rounds response c', Run (SocketStep dispatch) c (List.replicate rounds .internal ++ [.answered response]) c'

theorem Completes.of_step (hs : SocketStep dispatch c .internal c') (h : Completes dispatch c') :
    Completes dispatch c := by
  obtain ⟨rounds, response, last, hr⟩ := h
  exact ⟨rounds + 1, response, last, Run.cons hs hr⟩

/-- The daemon has dispatched the call and the client waits. -/
theorem completes_of_served {s : σ} (hat : AtStage dispatch c s (.served request response))
    (hclient : c.client = .receiving) (halive : c.daemon ≠ .ended) : Completes dispatch c := by
  cases hat with
  | served _ _ hup hdown hsent =>
    have hfinish : ∀ c : Connection σ, c.client = .receiving → c.down.all = response.bytes → c.down.rest = [] →
        Completes dispatch c := by
      intro c hclient hdown hrest
      have hlength : c.down.got.length + c.down.flight.length = respSize := by
        rw [← response.length_eq, ← hdown]
        unfold Pipe.all
        rw [hrest, List.append_nil, List.length_append]
      refine Completes.of_step (.clientRecv c.down.flight.length hclient le_rfl hlength.le) ?_
      refine ⟨0, response, _, Run.cons (.answered response hclient ?_) Run.nil⟩
      rw [← hdown]
      show c.down.got ++ c.down.flight.take c.down.flight.length = c.down.all
      unfold Pipe.all
      rw [hrest, List.take_length, List.append_nil]
    rcases hd : c.daemon with _ | shutdown | _
    · exact hfinish c hclient hdown (hsent hd)
    · refine Completes.of_step (.daemonSend c.down.rest.length hd le_rfl) ?_
      exact hfinish _ hclient ((Pipe.all_send _ _).trans hdown) (Pipe.send_rest_all _)
    · exact absurd hd halive

/-- The client has sent the request and the daemon is there to receive it. -/
theorem completes_of_asked {s : σ}
    (htotal : ∀ s request, ∃ s' response shutdown, dispatch s request s' response shutdown)
    (hat : AtStage dispatch c s (.asked request)) (hclient : c.client = .receiving)
    (hdaemon : c.daemon = .receiving) : Completes dispatch c := by
  cases hat with
  | asked _ hsent hendpoint hgot hflight halive =>
    obtain ⟨hup, hrest⟩ := halive (by rw [hdaemon]; exact DaemonPhase.noConfusion)
    have hlength : c.up.got.length + c.up.flight.length = reqSize := by
      rw [← request.length_eq, ← hup]
      unfold Pipe.all
      rw [hsent hclient, List.append_nil, List.length_append]
    have harrived : (c.up.recv c.up.flight.length).got = request.bytes := by
      rw [← hup]
      show c.up.got ++ c.up.flight.take c.up.flight.length = c.up.all
      unfold Pipe.all
      rw [hsent hclient, List.take_length, List.append_nil]
    obtain ⟨endpoint, response, shutdown, hdispatch⟩ := htotal c.endpoint request
    refine Completes.of_step (.daemonRecv c.up.flight.length hdaemon le_rfl hlength.le) ?_
    refine Completes.of_step (.dispatched hdaemon harrived hdispatch) ?_
    refine completes_of_served (s := c.endpoint)
      (.served ?_ ⟨shutdown, hdispatch⟩ ?_ ?_ fun h => DaemonPhase.noConfusion h) hclient DaemonPhase.noConfusion
    · show c.client ≠ .idle
      rw [hclient]
      exact ClientPhase.noConfusion
    · show [] ++ c.up.flight.drop c.up.flight.length ++ c.up.rest = []
      rw [List.drop_length, hsent hclient]
      rfl
    · show c.down.got ++ c.down.flight ++ response.bytes = response.bytes
      rw [hgot, hflight]
      rfl

/-- **No call is stuck.**  While the daemon lives and is not answering a shutdown, a call that is under way can be
brought to its answer by the two programs alone. -/
theorem call_completes [NeZero reqSize] [NeZero respSize]
    (htotal : ∀ s request, ∃ s' response shutdown, dispatch s request s' response shutdown)
    (hr : Run (SocketStep dispatch) { endpoint := s₀ } es c) (hf : SocketEvent.failed ∉ es) (hclient : c.client ≠ .idle)
    (hdaemon : c.daemon = .receiving ∨ c.daemon = .sending false) : Completes dispatch c := by
  -- the client gets to its `read` first, then the daemon to its own
  have hreceiving : ∀ {es : List (SocketEvent reqSize respSize)} {c : Connection σ}, Synced dispatch s₀ es c →
      c.client = .receiving → c.daemon = .receiving ∨ c.daemon = .sending false → Completes dispatch c := by
    intro es c hi hclient hdaemon
    obtain ⟨pairs, s, stage, -, hat, -⟩ := hi
    have halive : c.daemon ≠ .ended := by rcases hdaemon with h | h <;> rw [h] <;> exact DaemonPhase.noConfusion
    cases stage with
    | idle =>
      cases hat with
      | idle hidle => rw [hclient] at hidle; cases hidle
    | asked request =>
      rcases hdaemon with hd | hd
      · exact completes_of_asked htotal hat hclient hd
      · cases hat with
        | asked hne hsent hendpoint hgot hflight hall =>
          refine Completes.of_step (.daemonSent hd (hall halive).2) ?_
          exact completes_of_asked htotal (.asked hne hsent hendpoint hgot hflight fun _ => hall halive) hclient rfl
    | served request response => exact completes_of_served hat hclient halive
    | lost request =>
      cases hat with
      | lost hended => exact absurd hended halive
  have hi := run_synced hr hf
  rcases hc : c.client with _ | _ | _
  · exact absurd hc hclient
  · have hsend : SocketStep dispatch c .internal { c with up := c.up.send c.up.rest.length } := .clientSend _ hc le_rfl
    have hsent : SocketStep dispatch { c with up := c.up.send c.up.rest.length } .internal
        { c with up := c.up.send c.up.rest.length, client := .receiving } := .clientSent hc (Pipe.send_rest_all _)
    have hinternal : (SocketEvent.internal : SocketEvent reqSize respSize) ≠ .failed := fun h => by cases h
    have hi' := step_synced (step_synced hi hsend hinternal) hsent hinternal
    exact Completes.of_step hsend (Completes.of_step hsent (hreceiving hi' rfl hdaemon))
  · exact hreceiving hi hc hdaemon

/-- A call that has only just begun. -/
theorem call_completes_begun : ∃ c, Run (SocketStep counting) { endpoint := 0 } [.call ping] c ∧
    Completes counting c := by
  obtain ⟨c, hr, hclient, hdaemon⟩ : ∃ c, Run (SocketStep counting) { endpoint := 0 } [.call ping] c ∧
      c.client ≠ .idle ∧ c.daemon = .receiving :=
    ⟨_, Run.cons (.call ping rfl) Run.nil, ClientPhase.noConfusion, rfl⟩
  refine ⟨c, hr, call_completes (fun s request => ?_) hr (by simp) hclient (Or.inl hdaemon)⟩
  exact ⟨s + 1, ⟨[UInt8.ofNat (s + 1)], rfl⟩, false, rfl, rfl, rfl⟩

end Att1.Endpoint
