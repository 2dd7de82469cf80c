import RtpPlayer.Foundations.Memory
import RtpPlayer.Foundations.LoggedReader
import RtpPlayer.Foundations.ByteOrder
import RtpPlayer.Foundations.Machine
import RtpPlayer.Foundations.Octets
import RtpPlayer.Foundations.Script
import RtpPlayer.Foundations.Transitions
import RtpPlayer.Foundations.References
import RtpPlayer.Foundations.Gaps
import RtpPlayer.Foundations.Procedure
import RtpPlayer.Foundations.Rows
import RtpPlayer.Foundations.LinkedLists
import RtpPlayer.Foundations.Layers
import RtpPlayer.Foundations.Heap
import RtpPlayer.Foundations.Wrapping
import RtpPlayer.Foundations.Stopwatch
import RtpPlayer.Foundations.Ownership
import RtpPlayer.Foundations.Pipelines
import RtpPlayer.Foundations.Records
import RtpPlayer.Foundations.Losses
import RtpPlayer.Foundations.Footprint
import RtpPlayer.Common.AVTimer
import RtpPlayer.Events.EventBus
import RtpPlayer.Events.EventDispatch
import RtpPlayer.Events.EventHistory
import RtpPlayer.Events.ExactlyOnce
import RtpPlayer.Events.ModuleLifetime
import RtpPlayer.Events.Resurrection
import RtpPlayer.Rtp.RtpPacket
import RtpPlayer.Rtp.RtpGrammar
import RtpPlayer.Rtp.RtpDatagram
import RtpPlayer.Rtp.PacketNumbers
import RtpPlayer.Rtp.RtpClient
import RtpPlayer.Rtp.ReceiveLoop
import RtpPlayer.Streams.StreamDestruction
import RtpPlayer.Depacketizers.RtpDepacketizer
import RtpPlayer.Depacketizers.RtpDepacketizerH264
import RtpPlayer.Depacketizers.RtpDepacketizerVp8
import RtpPlayer.Depacketizers.NaluOperations
import RtpPlayer.Depacketizers.NaluPacketisation
import RtpPlayer.Depacketizers.AccessUnitRoundTrip
import RtpPlayer.Depacketizers.Resynchronisation
import RtpPlayer.Depacketizers.NaluSteps
import RtpPlayer.Depacketizers.NaluReads
import RtpPlayer.Depacketizers.NaluHistory
import RtpPlayer.Depacketizers.RandomAccessGate
import RtpPlayer.Depacketizers.StaleNalu
import RtpPlayer.Depacketizers.UnitTrace
import RtpPlayer.Depacketizers.NaluUnits
import RtpPlayer.Depacketizers.OrphanFragments
import RtpPlayer.Depacketizers.NaluContent
import RtpPlayer.Depacketizers.Vp8Grammar
import RtpPlayer.Depacketizers.Vp8Steps
import RtpPlayer.Depacketizers.Vp8RoundTrip
import RtpPlayer.Depacketizers.Vp8DescriptorFields
import RtpPlayer.Depacketizers.Vp8History
import RtpPlayer.Depacketizers.Vp8FrameStarts
import RtpPlayer.Depacketizers.Vp8KeyFrameGate
import RtpPlayer.Depacketizers.Vp8Units
import RtpPlayer.Depacketizers.Vp8Rejections
import RtpPlayer.Depacketizers.TruncationReports
import RtpPlayer.Depacketizers.CompletedFrames
import RtpPlayer.Depacketizers.SyncPointFlags
import RtpPlayer.Depacketizers.PacketCounts
import RtpPlayer.Depacketizers.FrameTimestamps
import RtpPlayer.Depacketizers.BufferBounds
import RtpPlayer.Player.AVSync
import RtpPlayer.Player.VideoLatency
import RtpPlayer.Player.SharedSync
import RtpPlayer.Player.FrameOwnership
import RtpPlayer.Player.ScheduleStep
import RtpPlayer.Player.ClockOrigin
import RtpPlayer.Player.VideoSchedule
import RtpPlayer.Player.RtpPlayer
import RtpPlayer.Player.PlayerOwnership
import RtpPlayer.Player.SettledPlayer
import RtpPlayer.Player.ClockLifetime
import RtpPlayer.Player.PlayerTeardown
import RtpPlayer.MediaCodec.VideoDec
import RtpPlayer.Renders.VideoOut
import RtpPlayer.Renders.AudioClock
import RtpPlayer.Renders.PlaneLayout
import RtpPlayer.Renders.Uploads
import RtpPlayer.MediaCodec.OpusEnc
import RtpPlayer.MediaCodec.OpusFrameLists
import RtpPlayer.MediaCodec.OpusFraming
import RtpPlayer.MediaCodec.OpusTimestamps
import RtpPlayer.MediaCodec.OpusLifetime
import RtpPlayer.MediaCodec.OpusLinkedFrames
import RtpPlayer.MediaCodec.OpusRelease
import RtpPlayer.MediaCodec.Vp8Enc
import RtpPlayer.MediaCodec.TemporalLayers
import RtpPlayer.MediaCodec.VideoEncLifetime
import RtpPlayer.MediaCodec.VideoDecLifetime
import RtpPlayer.MediaCodec.VideoDecImages
import RtpPlayer.MediaCodec.VideoDecUse
import RtpPlayer.MediaCodec.VideoDecRelease
import RtpPlayer.MediaCodec.VideoEncRelease
import RtpPlayer.MediaCodec.EncoderLifetime
import RtpPlayer.MediaCodec.EncoderFrames
import RtpPlayer.MediaCodec.AvcEnc
import RtpPlayer.MediaCodec.AvcLoop
import RtpPlayer.MediaCodec.AvcPackaging
import RtpPlayer.MediaCodec.Vp8Partitions
import RtpPlayer.MediaCodec.FrameHandover
import RtpPlayer.MediaCodec.BitstreamCapacity
import RtpPlayer.Decoders.VideoDecoder
import RtpPlayer.Decoders.DecoderLifetime
import RtpPlayer.Streams.RtpStream
import RtpPlayer.Streams.SendFrame
import RtpPlayer.Streams.DatagramPath
import RtpPlayer.Streams.FrameDelivery
import RtpPlayer.Streams.PacketLoss
import RtpPlayer.Player.MediaPath
import RtpPlayer.MediaCodec.OpusDec
import RtpPlayer.MediaCodec.OpusDecLifetime
import RtpPlayer.Renders.AudioRefusals
import RtpPlayer.Decoders.AudioDecoder
import RtpPlayer.MediaCodec.ImageDecoders
import RtpPlayer.MediaCodec.IvfWriter
import RtpPlayer.Decoders.VideoFrames
import RtpPlayer.Player.Playback
import RtpPlayer.Player.PlaybackFlow
import RtpPlayer.Player.PlayedSound
import RtpPlayer.Player.ShownPictures
import RtpPlayer.Player.UnseenNumbers
import RtpPlayer.Player.BufferingStalls
