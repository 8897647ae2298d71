import Xiu.ProofKit.Triple
import Xiu.Rtsp.Session.ServerSession
import Xiu.Rtsp.Track

/-! The channels of a publisher's tracks, of `rtsp_channel.rs` and `server_session.rs`: which handlers
ANNOUNCE and SETUP put where, and what the receiver reports of the tracks tell.  Locks are not modelled:
what waits for a loop in the source may go on here. -/

namespace Xiu.Rtsp.Session

open Bytesio ProofKit Bytesio.Read Common StreamHub

/-- `create_unpacker`, with a frame handler. -/
def createUnpacker : RtspCodecId → RtpChannel
  | .h264 => ⟨some (.video .h264 .new)⟩
  | .h265 => ⟨some (.video .h265 .new)⟩
  | .aac => ⟨some (.aac .new)⟩
  | .g711a => ⟨none⟩

/-- The channels of a track, with the readers of its loops over UDP.  Of the packer only its handler for
RTCP is kept, and whether it has one; a publisher's packers do not pack.  `counted` are the packets that
the context has been given, and `accepted` those that the unpacker has accepted. -/
structure Channels where
  codecId : RtspCodecId
  rtp : RtpChannel
  rtpPacker : Option Bool
  unpackerHandler : Bool
  rtcp : RtcpChannel
  began : Rtcp.RtcpContext
  counted : List Rtp.RtpPacket
  accepted : List Rtp.RtpPacket
  rtpLoop : Option BytesReader
  rtcpLoop : Option BytesReader

namespace Channels

/-- The channels of `RtspTrack::new`. -/
def new (codecId : RtspCodecId) : Channels :=
  ⟨codecId, createUnpacker codecId, none, false, newRtcp, newRtcp.recvCtx.toRtcpContext, [], [], none,
    none⟩

/-- `create_packer`.  A new packer has no handlers. -/
def createPacker (c : Channels) : Channels :=
  if c.codecId = .g711a then c else { c with rtpPacker := some false }

/-- `RtpChannel::on_packet_for_rtcp_handler`, for the handler that gives packets to the RTCP channel. -/
def onPacketForRtcpHandler (c : Channels) : Channels :=
  { c with rtpPacker := c.rtpPacker.map fun _ => true }

/-- The handler, which is `RtcpChannel::on_packet` of the track, at a time. -/
def onPacketForRtcp (packet : Rtp.RtpPacket) (clock : UInt64) : Read Channels Unit := do
  match (← owner).rtcp.recvCtx.receivedRtp packet clock with
  | none => throw .panic
  | some recvCtx =>
    act fun c => { c with rtcp := { c.rtcp with recvCtx }, counted := c.counted ++ [packet] }

/-- What the unpacker does with a packet. -/
def unpack : Read Channels Unit := fun s =>
  ofPart (fun rtp => { s.owner with rtp }) (RtpChannel.onPacket ⟨s.owner.rtp, s.reader⟩)

/-- `RtpChannel::on_packet`: an unpacker that has a handler for RTCP gives it the packet first. -/
def onRtp (clock : UInt64) : Read Channels Unit := fun s =>
  match s.owner.rtp.rtpUnpacker, Rtp.RtpPacket.unmarshal (⟨(), s.reader⟩ : Reading Unit) with
  | some _, .ok packet _ =>
    (do
      if s.owner.unpackerHandler then onPacketForRtcp packet clock else pure ()
      unpack
      act fun c => { c with accepted := c.accepted ++ [packet] } : Read Channels Unit) s
  | _, _ => unpack s

/-- `RtcpChannel::on_rtcp`.  What is put before a report over TCP is left out. -/
def onRtcp (srClock rrClock : UInt64) : Read Channels Unit := fun s =>
  ofPart (fun rtcp => { s.owner with rtcp }) (RtcpChannel.onRtcp srClock rrClock ⟨s.owner.rtcp, s.reader⟩)

/-- What SETUP does to the channels.  Where a loop runs, another one waits for it. -/
def setup (w : Surroundings) (transport : RtspTransport) (c : Channels) : Channels :=
  match transport.protocolType with
  | .tcp => c.createPacker
  | .udp =>
    let c :=
      if w.rtpPort.isNone then c
      else if transport.transportMod.isNone then c.createPacker
      else { c with rtpLoop := c.rtpLoop <|> some ⟨[]⟩ }
    if w.rtcpPort.isNone then c else { c with rtcpLoop := c.rtcpLoop <|> some ⟨[]⟩ }

end Channels

/-! ### The session -/

/-- A session with the channels of all tracks that it has had, and which of them are those of its tracks. -/
structure Publisher where
  session : RtspServerSession
  channels : List Channels
  current : List (TrackType × Nat)
  running : Bool

abbrev Publishing := EStateM Stop Publisher

namespace Publisher

/-- A part of a handler that has to do with the signalling. -/
def signal {α : Type} (x : Handler α) : Publishing α :=
  onPart (·.session) (fun s session => { s with session }) x

def addChannels (s : Publisher) (trackType : TrackType) (codecId : RtspCodecId) : Publisher :=
  { s with
    channels := s.channels ++ [.new codecId]
    current := s.current.filter (·.1 ≠ trackType) ++ [(trackType, s.channels.length)] }

/-- The channels of a medium that becomes a track. -/
def addMedia (s : Publisher) (media : Sdp.SdpMediaInfo) : Publisher :=
  match codecId media.rtpmap.encodingName with
  | some codecId =>
    if media.mediaType = "audio" then s.addChannels .audio codecId
    else if media.mediaType = "video" then s.addChannels .video codecId
    else s
  | none => s

def newTracks : Publishing Unit := do
  signal Session.newTracks
  modify fun s => s.session.sdp.medias.foldl addMedia s

/-- Changes the channels of a track. -/
def onTrack (f : Channels → Channels) (trackType : TrackType) (s : Publisher) : Publisher :=
  match s.current.lookup trackType with
  | some i => { s with channels := s.channels.modify i f }
  | none => s

variable (crates : Crates) (w : Surroundings) (request : HttpRequest)

def handleAnnounce : Publishing Unit := do
  signal (authenticate crates request false)
  signal (takeSdp crates request)
  newTracks
  signal (modify fun s => { s with streamIdentifier := some (identifierOf request) })
  let s ← get
  signal (ask w request (.publish (identifierOf request) (getPublisherInfo w s.session)))
  modify fun s => s.session.tracks.foldl (fun s p => s.onTrack Channels.onPacketForRtcpHandler p.1) s
  signal (sendResponse w (genResponse request))

def handleSetup : Publishing Unit := do
  let s ← get
  match setupTrack w request s.session, request.getHeader "Transport" with
  | some (trackType, track), some transportData => do
    let response ← signal (setupTransport w request trackType track transportData)
    modify fun s => ((RtspTransport.unmarshal transportData).map fun transport =>
      s.onTrack (Channels.setup w transport) trackType).getD s
    signal (sendResponse w response)
  | _, _ => signal (sendResponse w (genResponse request))

/-- A request; ANNOUNCE and SETUP are those that change channels. -/
def onRequest : Publishing Unit :=
  if request.method = "ANNOUNCE" then handleAnnounce crates w request
  else if request.method = "SETUP" then handleSetup w request
  else signal (onRtspRequest crates w request)

/-- Reads with the channels of a track. -/
def onChannels (trackType : TrackType) (x : Read Channels Unit) : Read Publisher Unit := fun s =>
  match s.owner.current.lookup trackType with
  | some i =>
    match s.owner.channels[i]? with
    | some c => ofPart (fun c => { s.owner with channels := s.owner.channels.set i c }) (x ⟨c, s.reader⟩)
    | none => .ok () s
  | none => .ok () s

/-- `on_rtp_over_rtsp_message`: all tracks with the channel read the bytes, one after the other. -/
def onRtpOverRtspMessage (channelIdentifier : Nat) (datagram : Datagram) :
    List (TrackType × RtspTrack) → Read Publisher Unit
  | [] => pure ()
  | (trackType, track) :: tracks => do
    match track.transport.interleaved with
    | some (rtpIdentifier, rtcpIdentifier) =>
      if channelIdentifier = rtpIdentifier then onChannels trackType (Channels.onRtp datagram.srClock)
      else if channelIdentifier = rtcpIdentifier then
        onChannels trackType (Channels.onRtcp datagram.srClock datagram.rrClock)
      else pure ()
    | none => pure ()
    onRtpOverRtspMessage channelIdentifier datagram tracks

/-! ### Its runs -/

/-- What comes: a request; a packet on a channel of the connection, with the order in which the map goes
through the tracks; a datagram for a loop, which may be the first one of the next loop. -/
inductive Coming where
  | request (w : Surroundings) (request : HttpRequest)
  | interleaved (reversed : Bool) (channelIdentifier : Nat) (datagram : Datagram)
  | rtp (i : Nat) (next : Bool) (datagram : Datagram)
  | rtcp (i : Nat) (next : Bool) (datagram : Datagram)

/-- The end of a handler of the session, which ends with an error. -/
def after : EStateM.Result Stop Publisher Unit → Publisher
  | .ok _ s => s
  | .error _ s => { s with running := false }

def afterRead : EStateM.Result Fault (Reading Publisher) Unit → Publisher
  | .ok _ s => s.owner
  | .error _ s => { s.owner with running := false }

/-- A loop goes on after an error, not after a panic. -/
def afterDatagram (put : Channels → BytesReader → Channels) :
    EStateM.Result Fault (Reading Channels) Unit → Option Channels
  | .ok _ s => some (put s.owner s.reader)
  | .error .panic _ => none
  | .error _ s => some (put s.owner s.reader)

/-- A datagram for the loop of some channels, which reads it behind what it has. -/
def receive (loop : Channels → Option BytesReader) (put : Channels → BytesReader → Channels)
    (handle : Datagram → Read Channels Unit) (s : Publisher) (i : Nat) (next : Bool)
    (datagram : Datagram) : Option Publisher := do
  let c ← s.channels[i]?
  let reader ← loop c
  let c ← afterDatagram put (received handle ⟨c, if next then ⟨[]⟩ else reader⟩ datagram)
  return { s with channels := s.channels.set i c }

/-- A publisher neither describes nor plays. -/
def step (s : Publisher) : Coming → Option Publisher
  | .request w request =>
    if s.running ∧ request.method ≠ "DESCRIBE" ∧ request.method ≠ "PLAY" then
      some (after (onRequest crates w request s))
    else none
  | .interleaved reversed channelIdentifier datagram =>
    if s.running then
      some (afterRead (onRtpOverRtspMessage channelIdentifier datagram
        (if reversed then s.session.tracks.reverse else s.session.tracks) ⟨s, ⟨datagram.data⟩⟩))
    else none
  | .rtp i next datagram =>
    s.receive (·.rtpLoop) (fun c reader => { c with rtpLoop := some reader })
      (fun datagram => Channels.onRtp datagram.srClock) i next datagram
  | .rtcp i next datagram =>
    s.receive (·.rtcpLoop) (fun c reader => { c with rtcpLoop := some reader })
      (fun datagram => Channels.onRtcp datagram.srClock datagram.rrClock) i next datagram

def system (auth : Option Auth) : System Publisher Coming where
  init s := s = ⟨.new auth, [], [], true⟩
  step s coming s' := s.step crates coming = some s'

end Publisher

/-! ### The signalling of a publisher is that of its session -/

namespace Publisher

/-- A result without the channels. -/
def forget {α : Type} : EStateM.Result Stop Publisher α → EStateM.Result Stop RtspServerSession α
  | .ok a s => .ok a s.session
  | .error e s => .error e s.session

section Forget

variable {α β : Type} {s : Publisher}

theorem forget_signal (x : Handler α) (s : Publisher) : forget (signal x s) = x s.session := by
  rw [signal, onPart]
  cases x s.session <;> rfl

theorem forget_bind {x : Publishing α} {f : α → Publishing β} {y : Handler α} {g : α → Handler β}
    (hx : ∀ s, forget (x s) = y s.session) (hf : ∀ a s, forget (f a s) = g a s.session) (s : Publisher) :
    forget ((x >>= f) s) = (y >>= g) s.session := by
  have hFirst := hx s
  cases hRun : x s with
  | ok a s1 =>
    rw [hRun] at hFirst
    rw [bind_of_ok hRun, bind_of_ok hFirst.symm, hf]
  | error e s1 =>
    rw [hRun] at hFirst
    rw [bind_of_error hRun, bind_of_error hFirst.symm]
    rfl

/-- A change of channels in between. -/
theorem forget_modify {h : Publisher → Publisher} {f : Unit → Publishing β} {y : Handler β}
    (hSession : ∀ s, (h s).session = s.session) (hf : ∀ s, forget (f () s) = y s.session) (s : Publisher) :
    forget ((modify h >>= f) s) = y s.session := by
  rw [bind_modify, hf, hSession]

theorem session_addMedia (s : Publisher) (media : Sdp.SdpMediaInfo) :
    (s.addMedia media).session = s.session := by
  unfold addMedia
  split
  · split
    · rfl
    · split <;> rfl
  · rfl

theorem session_addMedias (medias : List Sdp.SdpMediaInfo) (s : Publisher) :
    (medias.foldl addMedia s).session = s.session := by
  induction medias generalizing s with
  | nil => rfl
  | cons media medias ih => rw [List.foldl_cons, ih, session_addMedia]

theorem session_onTrack (f : Channels → Channels) (trackType : TrackType) (s : Publisher) :
    (s.onTrack f trackType).session = s.session := by
  unfold onTrack
  split <;> rfl

theorem session_registered (tracks : List (TrackType × RtspTrack)) (s : Publisher) :
    (tracks.foldl (fun s p => s.onTrack Channels.onPacketForRtcpHandler p.1) s).session = s.session := by
  induction tracks generalizing s with
  | nil => rfl
  | cons p tracks ih => rw [List.foldl_cons, ih, session_onTrack]

theorem forget_newTracks (s : Publisher) : forget (newTracks s) = Session.newTracks s.session := by
  have hBind := forget_bind (forget_signal Session.newTracks)
    (f := fun _ => modify fun s => s.session.sdp.medias.foldl addMedia s) (g := fun _ => pure ())
    (fun _ s => congrArg (EStateM.Result.ok ()) (session_addMedias s.session.sdp.medias s)) s
  rwa [bind_pure_unit] at hBind

variable (crates : Crates) (w : Surroundings) (request : HttpRequest)

theorem forget_handleAnnounce (s : Publisher) : forget (handleAnnounce crates w request s) =
    Session.handleAnnounce crates w request s.session := by
  refine forget_bind (forget_signal _) (fun _ s => ?_) s
  refine forget_bind (forget_signal _) (fun _ s => ?_) s
  refine forget_bind forget_newTracks (fun _ s => ?_) s
  refine forget_bind (forget_signal _) (fun _ s => ?_) s
  rw [bind_get, bind_get]
  refine forget_bind (forget_signal _) (fun _ s => ?_) s
  exact forget_modify (fun s => session_registered s.session.tracks s) (fun s => forget_signal _ s) s

theorem forget_handleSetup (s : Publisher) : forget (handleSetup w request s) =
    Session.handleSetup w request s.session := by
  rw [handleSetup, Session.handleSetup, bind_get, bind_get]
  cases setupTrack w request s.session with
  | none => exact forget_signal _ s
  | some p =>
    obtain ⟨trackType, track⟩ := p
    cases request.getHeader "Transport" with
    | none => exact forget_signal _ s
    | some transportData =>
      refine forget_bind (forget_signal _) (fun response s => ?_) s
      refine forget_modify (fun s => ?_) (fun s => forget_signal _ s) s
      cases RtspTransport.unmarshal transportData with
      | none => rfl
      | some transport => exact session_onTrack _ _ s

/-- Without its channels, a publisher handles a request as its session does. -/
theorem forget_onRequest (s : Publisher) :
    forget (onRequest crates w request s) = onRtspRequest crates w request s.session := by
  unfold onRequest
  split
  · rename_i hAnnounce
    rw [forget_handleAnnounce, onRtspRequest, hAnnounce]
    rfl
  · split
    · rename_i hSetup
      rw [forget_handleSetup, onRtspRequest, hSetup]
      rfl
    · exact forget_signal _ s

end Forget

end Publisher

/-! ### What the reports are to tell -/

/-- The highest sequence number received, extended by the cycles since the first one. -/
def highestExtended : List UInt16 → Nat
  | [] => 0
  | first :: rest =>
    rest.foldl (fun highest seq =>
      let ahead := (seq - UInt16.ofNat highest).toNat
      if ahead < 2 ^ 15 then highest + ahead else highest) first.toNat

/-- Every packet that the unpacker accepts is counted once, by a context that began with the first one; and
a sender report is answered with the source that sent it and the highest number received. -/
structure Channels.Reflects (c : Channels) : Prop where
  counted : c.counted = c.accepted
  began : ∀ first rest, c.accepted = first :: rest → c.began.ssrc = first.header.ssrc ∧
    c.began.source = ⟨first.header.seqNumber - 1, 0, 0, 0, Rtcp.MIN_SEQUENTIAL, 0, 0, 0⟩
  reports : ∀ srClock rrClock reader rtcpHeader sr s1 s2 s',
    Rtcp.RtcpHeader.unmarshal (⟨(), reader⟩ : Reading Unit) = .ok rtcpHeader s1 →
    rtcpHeader.payloadType = Rtcp.RTCP_SR →
    Rtcp.RtcpSenderReport.unmarshal (⟨c.rtcp, reader⟩ : Reading RtcpChannel) = .ok sr s2 →
    Channels.onRtcp srClock rrClock ⟨c, reader⟩ = .ok () s' →
    ∃ (rr : Rtcp.RtcpReceiverReport) (block : Rtcp.ReportBlock) (msg : List UInt8),
      rr.marshal = .ok msg ∧ s'.owner.rtcp.sent = c.rtcp.sent ++ [msg] ∧ rr.reportBlocks = [block] ∧ block.ssrc = sr.ssrc ∧
      (c.accepted ≠ [] → block.extendedHighestSeqNumber.toNat =
        highestExtended (c.accepted.map (·.header.seqNumber)))

/-! ### No packet is counted -/

/-- The unpacker has no handler for RTCP, and the context has been given nothing. -/
def Channels.Uncounted (c : Channels) : Prop := c.unpackerHandler = false ∧ c.counted = []

namespace Channels

theorem uncounted_new (codecId : RtspCodecId) : (new codecId).Uncounted := ⟨rfl, rfl⟩

variable {c : Channels}

theorem Uncounted.createPacker (h : c.Uncounted) : c.createPacker.Uncounted := by
  unfold Channels.createPacker
  split
  · exact h
  · exact h

theorem Uncounted.onPacketForRtcpHandler (h : c.Uncounted) : c.onPacketForRtcpHandler.Uncounted := h

theorem Uncounted.setup (h : c.Uncounted) (w : Surroundings) (transport : RtspTransport) :
    (c.setup w transport).Uncounted := by
  have hRtp : Uncounted (if w.rtpPort.isNone then c
      else if transport.transportMod.isNone then c.createPacker
      else { c with rtpLoop := c.rtpLoop <|> some ⟨[]⟩ }) := by
    split
    · exact h
    · split
      · exact h.createPacker
      · exact h
  unfold Channels.setup
  split
  · exact h.createPacker
  · dsimp only
    split
    · exact hRtp
    · exact hRtp

/-- Reads that leave channels without a handler, and count nothing. -/
abbrev Uncounting (x : Read Channels Unit) (s : Reading Channels) : Prop :=
  Leaves (fun s => s.owner.Uncounted) (fun _ s => s.owner.Uncounted) x s

theorem uncounting_ofPart {σ : Type} {wrap : σ → Channels} {x : Read Channels Unit}
    {s : Reading Channels} {r : EStateM.Result Fault (Reading σ) Unit} (hRun : x s = ofPart wrap r)
    (hWrap : ∀ t, (wrap t).Uncounted) : Uncounting x s := by
  cases r with
  | ok a t => exact leaves_of_ok hRun (hWrap t.owner)
  | error e t => exact leaves_of_error hRun (hWrap t.owner)

theorem uncounting_unpack {s : Reading Channels} (h : s.owner.Uncounted) : Uncounting unpack s :=
  uncounting_ofPart rfl fun _ => h

theorem uncounting_onRtcp {s : Reading Channels} (h : s.owner.Uncounted) (srClock rrClock : UInt64) :
    Uncounting (onRtcp srClock rrClock) s :=
  uncounting_ofPart rfl fun _ => h

/-- A packet is unpacked, and is not given to the context. -/
theorem uncounting_onRtp {s : Reading Channels} (h : s.owner.Uncounted) (clock : UInt64) :
    Uncounting (onRtp clock) s := by
  have hAll : Uncounting unpack s := uncounting_unpack h
  cases hUnPacker : s.owner.rtp.rtpUnpacker with
  | none =>
    have hRun : onRtp clock s = unpack s := by simp only [onRtp, hUnPacker]
    rwa [Uncounting, Leaves, hRun]
  | some unpacker =>
    cases hPacket : Rtp.RtpPacket.unmarshal (⟨(), s.reader⟩ : Reading Unit) with
    | error e t =>
      have hRun : onRtp clock s = unpack s := by simp only [onRtp, hUnPacker, hPacket]
      rwa [Uncounting, Leaves, hRun]
    | ok packet t =>
      have hRun : onRtp clock s = (do
          unpack
          act fun c => { c with accepted := c.accepted ++ [packet] } : Read Channels Unit) s := by
        simp only [onRtp, hUnPacker, hPacket, h.1]
        rfl
      rw [Uncounting, Leaves, hRun]
      exact hAll.bind fun _ s1 h1 => leaves_of_ok rfl h1

end Channels

namespace Publisher

/-- No packet has been counted on any channels. -/
def NoneCounted (s : Publisher) : Prop := ∀ c ∈ s.channels, c.Uncounted

/-- Handlers that leave it so. -/
abbrev CountsNone {α : Type} (x : Publishing α) (s : Publisher) : Prop :=
  Leaves NoneCounted (fun _ => NoneCounted) x s

variable {s : Publisher}

theorem countsNone_signal {α : Type} (h : s.NoneCounted) (x : Handler α) : CountsNone (signal x) s := by
  cases hRun : x s.session with
  | ok a session =>
    have hSignal : signal x s = .ok a { s with session } := by rw [signal, onPart, hRun]
    exact leaves_of_ok hSignal h
  | error e session =>
    have hSignal : signal x s = .error e { s with session } := by rw [signal, onPart, hRun]
    exact leaves_of_error hSignal h

theorem NoneCounted.addChannels (h : s.NoneCounted) (trackType : TrackType) (codecId : RtspCodecId) :
    (s.addChannels trackType codecId).NoneCounted := by
  intro c hMem
  rcases List.mem_append.mp hMem with hOld | hNew
  · exact h c hOld
  · obtain rfl := List.mem_singleton.mp hNew
    exact Channels.uncounted_new codecId

theorem NoneCounted.addMedia (h : s.NoneCounted) (media : Sdp.SdpMediaInfo) :
    (s.addMedia media).NoneCounted := by
  unfold Publisher.addMedia
  split
  · split
    · exact h.addChannels _ _
    · split
      · exact h.addChannels _ _
      · exact h
  · exact h

theorem NoneCounted.addMedias (h : s.NoneCounted) (medias : List Sdp.SdpMediaInfo) :
    (medias.foldl Publisher.addMedia s).NoneCounted := by
  induction medias generalizing s with
  | nil => exact h
  | cons media medias ih => exact ih (h.addMedia media)

theorem NoneCounted.onTrack (h : s.NoneCounted) {f : Channels → Channels}
    (hf : ∀ c : Channels, c.Uncounted → (f c).Uncounted) (trackType : TrackType) :
    (s.onTrack f trackType).NoneCounted := by
  unfold Publisher.onTrack
  split
  · intro c hMem
    obtain ⟨i, hi, rfl⟩ := List.mem_iff_getElem.mp hMem
    rw [List.getElem_modify]
    have hLength : i < s.channels.length := by simpa using hi
    split
    · exact hf _ (h _ (List.getElem_mem hLength))
    · exact h _ (List.getElem_mem hLength)
  · exact h

theorem NoneCounted.registered (h : s.NoneCounted) (tracks : List (TrackType × RtspTrack)) :
    (tracks.foldl (fun s p => s.onTrack Channels.onPacketForRtcpHandler p.1) s).NoneCounted := by
  induction tracks generalizing s with
  | nil => exact h
  | cons p tracks ih => exact ih (h.onTrack (fun _ hc => hc.onPacketForRtcpHandler) p.1)

variable {crates : Crates} {w : Surroundings} {request : HttpRequest}

theorem countsNone_handleAnnounce (h : s.NoneCounted) :
    CountsNone (handleAnnounce crates w request) s := by
  refine (countsNone_signal h _).bind fun _ s1 h1 => ?_
  refine (countsNone_signal h1 _).bind fun _ s2 h2 => ?_
  have hTracks : CountsNone newTracks s2 :=
    (countsNone_signal h2 _).bind fun _ s3 h3 => leaves_of_ok rfl (h3.addMedias _)
  refine hTracks.bind fun _ s3 h3 => ?_
  refine (countsNone_signal h3 _).bind fun _ s4 h4 => ?_
  refine (countsNone_signal h4 _).bind fun _ s5 h5 => ?_
  exact countsNone_signal (h5.registered _) _

theorem NoneCounted.setUp (h : s.NoneCounted) (w : Surroundings) (trackType : TrackType)
    (transport : Option RtspTransport) :
    ((transport.map fun transport => s.onTrack (Channels.setup w transport) trackType).getD s).NoneCounted := by
  cases transport with
  | none => exact h
  | some transport => exact h.onTrack (fun _ hc => hc.setup w transport) trackType

theorem countsNone_handleSetup (h : s.NoneCounted) : CountsNone (handleSetup w request) s := by
  have hGet : Leaves NoneCounted (fun a s' => a = s ∧ s' = s) (get : Publishing Publisher) s :=
    leaves_of_ok rfl ⟨rfl, rfl⟩
  refine hGet.bind ?_
  rintro s1 s1 ⟨rfl, rfl⟩
  split
  · refine (countsNone_signal h _).bind fun response s2 h2 => ?_
    exact countsNone_signal (h2.setUp w _ _) _
  · exact countsNone_signal h _

theorem countsNone_onRequest (h : s.NoneCounted) : CountsNone (onRequest crates w request) s := by
  refine leaves_ite (fun _ => countsNone_handleAnnounce h) fun _ => ?_
  exact leaves_ite (fun _ => countsNone_handleSetup h) fun _ => countsNone_signal h _

/-- Reads of a publisher that count nothing. -/
abbrev Uncounting (x : Read Publisher Unit) (s : Reading Publisher) : Prop :=
  Leaves (fun s => s.owner.NoneCounted) (fun _ s => s.owner.NoneCounted) x s

theorem NoneCounted.set (h : s.NoneCounted) {i : Nat} {c : Channels} (hc : c.Uncounted) :
    ({ s with channels := s.channels.set i c } : Publisher).NoneCounted := by
  intro c' hMem
  rcases List.mem_or_eq_of_mem_set hMem with hOld | rfl
  · exact h c' hOld
  · exact hc

theorem uncounting_onChannels {s : Reading Publisher} (h : s.owner.NoneCounted) (trackType : TrackType)
    {x : Read Channels Unit} (hx : ∀ s, s.owner.Uncounted → Channels.Uncounting x s) :
    Uncounting (onChannels trackType x) s := by
  cases hCurrent : s.owner.current.lookup trackType with
  | none =>
    have hRun : onChannels trackType x s = .ok () s := by simp only [onChannels, hCurrent]
    exact leaves_of_ok hRun h
  | some i =>
    cases hChannels : s.owner.channels[i]? with
    | none =>
      have hRun : onChannels trackType x s = .ok () s := by simp only [onChannels, hCurrent, hChannels]
      exact leaves_of_ok hRun h
    | some c =>
      have hc := hx ⟨c, s.reader⟩ (h c (List.mem_of_getElem? hChannels))
      have hRun : onChannels trackType x s = ofPart
          (fun c => { s.owner with channels := s.owner.channels.set i c }) (x ⟨c, s.reader⟩) := by
        simp only [onChannels, hCurrent, hChannels]
      cases hRead : x ⟨c, s.reader⟩ with
      | ok a t =>
        rw [hRead] at hRun
        exact leaves_of_ok hRun (h.set (hc.ok hRead))
      | error e t =>
        rw [hRead] at hRun
        exact leaves_of_error hRun (h.set (hc.error hRead))

theorem uncounting_onRtpOverRtsp (channelIdentifier : Nat) (datagram : Datagram)
    (tracks : List (TrackType × RtspTrack)) {s : Reading Publisher} (h : s.owner.NoneCounted) :
    Uncounting (onRtpOverRtspMessage channelIdentifier datagram tracks) s := by
  induction tracks generalizing s with
  | nil => exact leaves_of_ok rfl h
  | cons p tracks ih =>
    obtain ⟨trackType, track⟩ := p
    have hRest : ∀ (x : Read Publisher Unit), Uncounting x s →
        Uncounting (x >>= fun _ => onRtpOverRtspMessage channelIdentifier datagram tracks) s :=
      fun x hx => hx.bind fun _ s1 h1 => ih h1
    rw [Uncounting, onRtpOverRtspMessage]
    split
    · refine leaves_ite (fun _ => hRest _ ?_) fun _ => leaves_ite (fun _ => hRest _ ?_) fun _ => ih h
      · exact uncounting_onChannels h trackType fun s hc => Channels.uncounting_onRtp hc _
      · exact uncounting_onChannels h trackType fun s hc => Channels.uncounting_onRtcp hc _ _
    · exact ih h

/-- A datagram for a loop. -/
theorem NoneCounted.receive (h : s.NoneCounted) {loop : Channels → Option BytesReader}
    {put : Channels → BytesReader → Channels} {handle : Datagram → Read Channels Unit}
    (hPut : ∀ (c : Channels) reader, c.Uncounted → (put c reader).Uncounted)
    (hHandle : ∀ datagram s, s.owner.Uncounted → Channels.Uncounting (handle datagram) s) {i : Nat}
    {next : Bool} {datagram : Datagram} {s' : Publisher}
    (hStep : s.receive loop put handle i next datagram = some s') : s'.NoneCounted := by
  obtain ⟨c, hChannels, hStep⟩ := Option.bind_eq_some_iff.mp hStep
  obtain ⟨reader, -, hStep⟩ := Option.bind_eq_some_iff.mp hStep
  obtain ⟨c', hAfter, hStep⟩ := Option.bind_eq_some_iff.mp hStep
  obtain rfl := Option.some.inj hStep
  have hLeaves := hHandle datagram
    ⟨c, (if next then ⟨[]⟩ else reader : BytesReader).extendFromSlice datagram.data⟩
    (h c (List.mem_of_getElem? hChannels))
  refine h.set ?_
  rw [received] at hAfter
  cases hRun : handle datagram
    ⟨c, (if next then ⟨[]⟩ else reader : BytesReader).extendFromSlice datagram.data⟩ with
  | ok a t =>
    rw [hRun] at hAfter
    obtain rfl := Option.some.inj hAfter
    exact hPut _ _ (hLeaves.ok hRun)
  | error e t =>
    rw [hRun] at hAfter
    cases e with
    | panic => cases hAfter
    | bytesReadError value =>
      obtain rfl := Option.some.inj hAfter
      exact hPut _ _ (hLeaves.error hRun)

theorem NoneCounted.step (h : s.NoneCounted) {coming : Coming} {s' : Publisher}
    (hStep : s.step crates coming = some s') : s'.NoneCounted := by
  cases coming with
  | request w request =>
    simp only [Publisher.step] at hStep
    split at hStep
    · obtain rfl := Option.some.inj hStep
      have hLeaves : CountsNone (onRequest crates w request) s := countsNone_onRequest h
      cases hRun : onRequest crates w request s with
      | ok a t => exact hLeaves.ok hRun
      | error e t =>
        have hEnd : t.NoneCounted := hLeaves.error hRun
        exact hEnd
    · cases hStep
  | interleaved reversed channelIdentifier datagram =>
    simp only [Publisher.step] at hStep
    split at hStep
    · obtain rfl := Option.some.inj hStep
      have hLeaves := uncounting_onRtpOverRtsp channelIdentifier datagram
        (if reversed then s.session.tracks.reverse else s.session.tracks) (s := ⟨s, ⟨datagram.data⟩⟩) h
      cases hRun : onRtpOverRtspMessage channelIdentifier datagram
        (if reversed then s.session.tracks.reverse else s.session.tracks) ⟨s, ⟨datagram.data⟩⟩ with
      | ok a t => exact hLeaves.ok hRun
      | error e t => exact hLeaves.error hRun
    · cases hStep
  | rtp i next datagram =>
    refine h.receive ?_ ?_ hStep
    · exact fun _ _ hc => hc
    · exact fun datagram s hc => Channels.uncounting_onRtp hc _
  | rtcp i next datagram =>
    refine h.receive ?_ ?_ hStep
    · exact fun _ _ hc => hc
    · exact fun datagram s hc => Channels.uncounting_onRtcp hc _ _

theorem noneCounted_of_reached {auth : Option Auth} (h : (system crates auth).Reached s) :
    s.NoneCounted := by
  refine h.invariant ?_ fun s coming s' hs hStep => hs.step hStep
  rintro s rfl c hMem
  cases hMem

end Publisher

/-! ### What the reports tell -/

/-- A report names the source that the last sender report came from. -/
theorem generateRr_ssrc {self recvCtx : Rtcp.ReceiverContext} {clock : UInt64}
    {rr : Rtcp.RtcpReceiverReport} (h : self.generateRr clock = some (recvCtx, rr)) :
    ∃ block, rr.reportBlocks = [block] ∧ block.ssrc = self.senderSsrc := by
  obtain ⟨⟨context, block⟩, hBlock, hRr⟩ := Option.bind_eq_some_iff.mp h
  obtain ⟨-, rfl⟩ := Prod.mk.inj (Option.some.inj hRr)
  obtain ⟨_, _, _, _, _, -, -, -, rfl⟩ := Rtcp.genReportBlock_eq_some.mp hBlock
  exact ⟨_, rfl, rfl⟩

/-- A sender report is answered with a report that names its source. -/
theorem onRtcp_answers {c : Channels} {srClock rrClock : UInt64} {reader : BytesReader}
    {rtcpHeader : Rtcp.RtcpHeader} {sr : Rtcp.RtcpSenderReport} {s1 : Reading Unit}
    {s2 : Reading RtcpChannel} {s' : Reading Channels}
    (hHeader : Rtcp.RtcpHeader.unmarshal (⟨(), reader⟩ : Reading Unit) = .ok rtcpHeader s1)
    (hType : rtcpHeader.payloadType = Rtcp.RTCP_SR)
    (hSr : Rtcp.RtcpSenderReport.unmarshal (⟨c.rtcp, reader⟩ : Reading RtcpChannel) = .ok sr s2)
    (hOk : Channels.onRtcp srClock rrClock ⟨c, reader⟩ = .ok () s') :
    ∃ (rr : Rtcp.RtcpReceiverReport) (block : Rtcp.ReportBlock) (msg : List UInt8),
      rr.marshal = .ok msg ∧ s'.owner.rtcp.sent = c.rtcp.sent ++ [msg] ∧ rr.reportBlocks = [block] ∧
        block.ssrc = sr.ssrc := by
  have hOwner : s2.owner = c.rtcp := by
    have hFields := @Rtcp.takesFields_senderReport _ ⟨c.rtcp, reader⟩
    rcases Nat.lt_or_ge reader.buffer.length (Rtcp.srWidths reader.buffer).sum with hShort | hWhole
    · cases hSr.symm.trans (hFields.short hShort)
    · obtain ⟨sr', hWhole⟩ := hFields.whole hWhole
      obtain ⟨-, rfl⟩ := EStateM.Result.ok.inj (hSr.symm.trans hWhole)
      rfl
  have hRun : RtcpChannel.onRtcp srClock rrClock ⟨c.rtcp, reader⟩ = RtcpChannel.sendRr rrClock
      ⟨{ c.rtcp with recvCtx := c.rtcp.recvCtx.receivedSr sr.ssrc sr.ntp srClock }, s2.reader⟩ := by
    simp only [RtcpChannel.onRtcp, hHeader, hType, hSr, if_true, bind_act, hOwner]
  rw [Channels.onRtcp, hRun, RtcpChannel.sendRr, bind_owner] at hOk
  cases hGenerated : (c.rtcp.recvCtx.receivedSr sr.ssrc sr.ntp srClock).generateRr rrClock with
  | none =>
    simp only [hGenerated] at hOk
    cases hOk
  | some generated =>
    obtain ⟨recvCtx, rr⟩ := generated
    obtain ⟨block, hBlocks, hSsrc⟩ := generateRr_ssrc hGenerated
    simp only [hGenerated, bind_act] at hOk
    cases hMarshal : rr.marshal with
    | error fault =>
      rw [hMarshal] at hOk
      cases fault
      cases hOk
    | ok msg =>
      rw [hMarshal] at hOk
      obtain ⟨-, rfl⟩ := EStateM.Result.ok.inj hOk
      exact ⟨rr, block, msg, hMarshal, rfl, hBlocks, hSsrc⟩

/-- In every run of a publisher, the reports of a track reflect the packets received as long as the
unpacker has accepted none, and no longer. -/
theorem reflects_iff {crates : Crates} {auth : Option Auth} {s : Publisher}
    (h : (Publisher.system crates auth).Reached s) {c : Channels} (hMem : c ∈ s.channels) :
    c.Reflects ↔ c.accepted = [] := by
  obtain ⟨-, hCounted⟩ := Publisher.noneCounted_of_reached h c hMem
  constructor
  · intro hReflects
    rw [← hReflects.counted, hCounted]
  · intro hNone
    refine ⟨by rw [hCounted, hNone], ?_, ?_⟩
    · intro first rest hFirst
      cases hNone.symm.trans hFirst
    · intro srClock rrClock reader rtcpHeader sr s1 s2 s' hHeader hType hSr hOk
      obtain ⟨rr, block, msg, hMarshal, hSent, hBlocks, hSsrc⟩ := onRtcp_answers hHeader hType hSr hOk
      exact ⟨rr, block, msg, hMarshal, hSent, hBlocks, hSsrc, fun hSome => absurd hNone hSome⟩

/-- Crates that decode nothing. -/
def noCrates : Crates :=
  ⟨⟨fun _ => none, fun _ => [], fun _ => none, fun _ => []⟩, id, fun _ => none⟩

/-- A hub that accepts a publisher, at a second. -/
def accepting : Surroundings := ⟨1700000000, true, none, true, true, false, none, none⟩

/-- A publisher announces a track for H264 and sets it up over its connection. -/
def announceH264 : HttpRequest :=
  { HttpRequest.default with
    method := "ANNOUNCE"
    uri := { Uri.default with path := "live" }
    body := some "m=video 0 RTP/AVP 96\r\na=rtpmap:96 H264/90000\r\na=control:t0\r\n" }

def setupH264 : HttpRequest :=
  { HttpRequest.default with
    method := "SETUP"
    uri := { Uri.default with path := "live/t0" }
    headers := [("Transport", "RTP/AVP/TCP;interleaved=0-1;mode=record")] }

/-- The publisher that comes so far. -/
theorem exists_setUp (coming : Publisher.Coming) {P : Publisher → Prop}
    (h : ∃ s1 ∈ (⟨.new none, [], [], true⟩ : Publisher).step noCrates (.request accepting announceH264),
      ∃ s2 ∈ s1.step noCrates (.request accepting setupH264), ∃ s3 ∈ s2.step noCrates coming, P s3) :
    ∃ s, (Publisher.system noCrates none).Reached s ∧ P s := by
  obtain ⟨s1, h1, s2, h2, s3, h3, hs⟩ := h
  exact ⟨s3, ⟨_, [_, _, coming], rfl, .cons h1 (.cons h2 (.cons h3 (.nil _)))⟩, hs⟩

/-- A sender report is answered before any packet comes. -/
theorem report_before_packets : ∃ s, (Publisher.system noCrates none).Reached s ∧
    ∃ c ∈ s.channels, c.rtcp.sent.length = 1 ∧ c.Reflects := by
  obtain ⟨s, hReached, c, hMem, hSent, hNone⟩ := exists_setUp (.interleaved false 1 senderReport)
    (P := fun s => ∃ c ∈ s.channels, c.rtcp.sent.length = 1 ∧ c.accepted = []) (by decide +kernel)
  exact ⟨s, hReached, c, hMem, hSent, (reflects_iff hReached hMem).mpr hNone⟩

/-- A packet is accepted and is not counted. -/
theorem packet_not_counted : ¬∀ crates auth s, (Publisher.system crates auth).Reached s →
    ∀ c ∈ s.channels, c.Reflects := by
  intro hAll
  obtain ⟨s, hReached, c, hMem, hSome⟩ := exists_setUp (.interleaved false 0 nalPacket)
    (P := fun s => ∃ c ∈ s.channels, c.accepted ≠ []) (by decide +kernel)
  obtain ⟨-, hCounted⟩ := Publisher.noneCounted_of_reached hReached c hMem
  exact hSome ((hAll noCrates none s hReached c hMem).counted.symm.trans hCounted)

end Xiu.Rtsp.Session
