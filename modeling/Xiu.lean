import Xiu.ProofKit.Action
import Xiu.ProofKit.Loop
import Xiu.ProofKit.Resume
import Xiu.ProofKit.System
import Xiu.ProofKit.Endian
import Xiu.Bytesio.Reader
import Xiu.Bytesio.Writer
import Xiu.Rtmp.Chunk.Define
import Xiu.Rtmp.Chunk.Reads
import Xiu.Rtmp.Chunk.Unpacketizer
import Xiu.Rtmp.Chunk.Payload
import Xiu.Rtmp.Chunk.Wire
import Xiu.Rtmp.Chunk.Resumption
import Xiu.Rtmp.Chunk.Segmentation
import Xiu.Rtmp.Chunk.LostHeader
import Xiu.Rtmp.Chunk.Messages
import Xiu.Rtmp.Chunk.Packetizer
import Xiu.Rtmp.Chunk.RoundTrip
import Xiu.Bytesio.Reading
import Xiu.StreamHub.Define
import Xiu.Rtsp.Rtp.Packet
import Xiu.ProofKit.Pieces
import Xiu.Rtsp.Rtp.Packer
import Xiu.Rtsp.Rtp.Fragments
import Xiu.Rtsp.Rtp.Conformance
import Xiu.Rtsp.Rtp.UnPacker
import Xiu.Bytesio.Panics
import Xiu.Rtsp.Rtp.Hostile
import Xiu.Rtsp.Rtp.Reassembly
import Xiu.Rtsp.Rtp.Loss
import Xiu.Rtsp.Rtp.Annexb
import Xiu.Rtsp.Rtp.RoundTrip
import Xiu.Flv.Amf0.Define
import Xiu.Flv.Amf0.Writer
import Xiu.Flv.Amf0.Reader
import Xiu.Flv.Amf0.RoundTrip
import Xiu.Mpegts.Define
import Xiu.Mpegts.Psi
import Xiu.Mpegts.Pes
import Xiu.Mpegts.TsHeader
import Xiu.Mpegts.Packets
import Xiu.Mpegts.TsMuxer
import Xiu.Mpegts.Output
import Xiu.Mpegts.Writes
import Xiu.Mpegts.Calls
import Xiu.Mpegts.Alignment
import Xiu.Mpegts.Pids
import Xiu.Mpegts.Iso
import Xiu.Mpegts.Demux
import Xiu.ProofKit.Serial
import Xiu.Rtsp.Rtcp.Source
import Xiu.Rtsp.Rtcp.Reception
import Xiu.StreamHub.Accounts
import Xiu.StreamHub.Invariants
import Xiu.StreamHub.Availability
import Xiu.StreamHub.Ownership
import Xiu.StreamHub.KickTable
import Xiu.StreamHub.Feeds
import Xiu.StreamHub.Workers
import Xiu.StreamHub.Release
import Xiu.Common.Text
import Xiu.Common.Auth
import Xiu.Common.Http
import Xiu.Webrtc.Server
import Xiu.Webrtc.Release
import Xiu.ProofKit.Utf8
import Xiu.Rtsp.Session.ReadLoop
import Xiu.Rtsp.Session.Progress
import Xiu.Rtsp.Session.Segmentation
import Xiu.Rtsp.Sdp
import Xiu.Rtsp.Transport
import Xiu.Rtsp.Session.ServerSession
import Xiu.Rtsp.Session.Ledger
import Xiu.Rtsp.Session.Release
import Xiu.Rtsp.Malformed
import Xiu.Rtsp.Session.Signalling
import Xiu.Rtmp.Messages.Define
import Xiu.Rtmp.ControlWriters
import Xiu.Rtmp.CommandWriters
import Xiu.Rtmp.Utils
import Xiu.Rtmp.Session.Common
import Xiu.Rtmp.Session.ServerSession
import Xiu.Rtmp.Session.ClientSession
import Xiu.Rtmp.Session.Commands
import Xiu.Rtmp.Session.Ledger
import Xiu.ProofKit.Holdings
import Xiu.Rtmp.Session.Release
import Xiu.Rtmp.Session.Settle
import Xiu.Authentication
import Xiu.StreamHub.Relay
import Xiu.Rtmp.Relay
import Xiu.Rtsp.Relay
import Xiu.Rtsp.Registry
import Xiu.Rtsp.Session.ClientSession
import Xiu.RelayRelease
import Xiu.Flv.Tags
import Xiu.ProofKit.Path
import Xiu.ProofKit.While
import Xiu.Bytesio.PortPair
import Xiu.Flv.Mpeg4Avc
import Xiu.ProofKit.Triple
import Xiu.Bytesio.Coding
import Xiu.Rtsp.Rtp.Marshal
import Xiu.Rtsp.Rtp.Aac
import Xiu.Rtsp.Rtp.Aggregation
import Xiu.StreamHub.Statistics
import Xiu.Rtsp.Rtcp.Report
import Xiu.Hls.Playlist
import Xiu.Hls.Notices
import Xiu.Hls.Cuts
import Xiu.Hls.Playable
import Xiu.Hls.Files
import Xiu.ProofKit.Groups
import Xiu.Rtmp.Cache.Gop
import Xiu.StreamHub.Outcomes
import Xiu.Flv.TagHeader
import Xiu.Flv.Mpeg4Aac
import Xiu.Flv.AudioDemuxer
import Xiu.Rtmp.Cache.Cache
import Xiu.Flv.AvcRecord
import Xiu.Flv.AvcSaved
import Xiu.ProofKit.Bits
import Xiu.ProofKit.BitSyntax
import Xiu.Bytesio.BitsReader
import Xiu.H264.Utils
import Xiu.H264.Sps
import Xiu.H264.SpsSyntax
import Xiu.H264.Standard
import Xiu.H264.Resolution
import Xiu.ProofKit.Collect
import Xiu.Rtmp.Handshake.Digest
import Xiu.Rtmp.Handshake.Handshaker
import Xiu.Rtmp.Handshake.Session
import Xiu.Bytesio.Fields
import Xiu.Rtsp.Rtcp.Packets
import Xiu.Rtsp.Rtp.Leftovers
import Xiu.Rtsp.Track
import Xiu.Webrtc.RtpQueue
import Xiu.Webrtc.Delivery
import Xiu.ProofKit.ByteFields
import Xiu.Flv.TagRoundTrip
import Xiu.Flv.Adts
import Xiu.Rtmp.Chunk.BasicHeader
import Xiu.Rtmp.Cache.Metadata
import Xiu.Httpflv.Calls
import Xiu.Httpflv.Metadata
import Xiu.Httpflv.Stream
import Xiu.Rtmp.Remuxer.RtmpCooker
import Xiu.Rtmp.Remuxer.Session
import Xiu.Rtmp.Remuxer.Calls
import Xiu.Rtmp.Remuxer.Timestamps
import Xiu.Rtmp.Remuxer.Audio
import Xiu.Rtmp.Remuxer.VideoCalls
import Xiu.Rtmp.Remuxer.Video
import Xiu.StreamHub.Loops
import Xiu.Webrtc.Reading
import Xiu.Rtmp.Chunk.Interleaving
import Xiu.Rtmp.LateJoiner
import Xiu.Bytesio.BitsWriter
import Xiu.Common.Written
import Xiu.ProofKit.Crc
import Xiu.Mpegts.Sections
import Xiu.Rtsp.Session.Reports
import Xiu.Common.Messages
import Xiu.ProofKit.Folds
import Xiu.Rtsp.Sdp.Clean
import Xiu.Rtsp.Sdp.Formats
import Xiu.Rtsp.Sdp.Reread
import Xiu.Rtsp.Sdp.Readvertised
import Xiu.ProofKit.Feeding
import Xiu.ProofKit.Moves
import Xiu.ProofKit.Exchange
import Xiu.Rtmp.Messages.Parser
import Xiu.Rtmp.Messages.Calls
import Xiu.Rtmp.Chunk.Shared
import Xiu.Rtmp.Connection
import Xiu.Rtmp.Session.Speech
import Xiu.Rtmp.Session.ServerSpeech
import Xiu.Rtmp.Session.ClientSpeech
import Xiu.Rtmp.Session.Exchange
import Xiu.Rtmp.Session.Asking
import Xiu.Rtmp.Session.Answering
import Xiu.Rtmp.Session.Agreement
import Xiu.Rtmp.Broadcast
import Xiu.Hls.Playback
