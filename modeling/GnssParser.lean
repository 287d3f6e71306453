import GnssParser.Lib.Base64
import GnssParser.Lib.BitView
import GnssParser.Lib.Burst
import GnssParser.Lib.Checked
import GnssParser.Lib.Columns
import GnssParser.Lib.Crc
import GnssParser.Lib.Decimal
import GnssParser.Lib.Elementary
import GnssParser.Lib.Ensures
import GnssParser.Lib.Grouping
import GnssParser.Lib.Ieee
import GnssParser.Lib.ImplicitOffset
import GnssParser.Lib.Kepler
import GnssParser.Lib.LeastSquares
import GnssParser.Lib.Mapping
import GnssParser.Lib.Nmea
import GnssParser.Lib.OrderedMap
import GnssParser.Lib.Scanner
import GnssParser.Lib.Search
import GnssParser.Lib.Separation
import GnssParser.Lib.StepOffsets
import GnssParser.Lib.Table
import GnssParser.Lib.Text
import GnssParser.Lib.Transition
import GnssParser.Lib.Turning
import GnssParser.Model.Atmosphere
import GnssParser.Model.Beidou
import GnssParser.Model.BitField
import GnssParser.Model.ConfigAck
import GnssParser.Model.DriverManager
import GnssParser.Model.Ephemeris
import GnssParser.Model.Galileo
import GnssParser.Model.Geodesy
import GnssParser.Model.GloOrbit
import GnssParser.Model.Glonass
import GnssParser.Model.GnssTime
import GnssParser.Model.Gps
import GnssParser.Model.LeastSquares
import GnssParser.Model.Measurement
import GnssParser.Model.Navigation
import GnssParser.Model.Nmea
import GnssParser.Model.Ntrip
import GnssParser.Model.Orbit
import GnssParser.Model.Params
import GnssParser.Model.Positioning
import GnssParser.Model.Processor
import GnssParser.Model.ReceiverConfig
import GnssParser.Model.Rinex
import GnssParser.Model.RinexNav
import GnssParser.Model.RinexWriter
import GnssParser.Model.RosMessage
import GnssParser.Model.Rtcm
import GnssParser.Model.Satellite
import GnssParser.Model.SatelliteClock
import GnssParser.Model.SerialReader
import GnssParser.Model.Signal
import GnssParser.Model.StateMachine
import GnssParser.Model.Subframe
import GnssParser.Model.TcpClient
import GnssParser.Model.WakePipe
import GnssParser.Model.Writers
import GnssParser.Proof.Atmosphere
import GnssParser.Proof.Base64
import GnssParser.Proof.BeidouFrames
import GnssParser.Proof.BeidouSets
import GnssParser.Proof.BeidouSources
import GnssParser.Proof.BitField
import GnssParser.Proof.Bounds
import GnssParser.Proof.Calendar
import GnssParser.Proof.Checksum
import GnssParser.Proof.ChecksumErrors
import GnssParser.Proof.ConfigAck
import GnssParser.Proof.ConfigEncoding
import GnssParser.Proof.ConfigGrammar
import GnssParser.Proof.Crc24q
import GnssParser.Proof.CycleSlip
import GnssParser.Proof.D1Completeness
import GnssParser.Proof.D2Completeness
import GnssParser.Proof.DopplerSolver
import GnssParser.Proof.DriverManager
import GnssParser.Proof.DriverStartup
import GnssParser.Proof.DriverStream
import GnssParser.Proof.Eccentricity
import GnssParser.Proof.GalileoCompleteness
import GnssParser.Proof.GalileoFrames
import GnssParser.Proof.Geodesy
import GnssParser.Proof.Gga
import GnssParser.Proof.GloOrbit
import GnssParser.Proof.GlonassNull
import GnssParser.Proof.GlonassStrings
import GnssParser.Proof.GnssTime
import GnssParser.Proof.GpsCompleteness
import GnssParser.Proof.GpsFrames
import GnssParser.Proof.Interleaving
import GnssParser.Proof.KeplerLoop
import GnssParser.Proof.LeapSeconds
import GnssParser.Proof.LeastSquares
import GnssParser.Proof.LockGaps
import GnssParser.Proof.MeasBlocks
import GnssParser.Proof.NamedRecords
import GnssParser.Proof.NtripHandshake
import GnssParser.Proof.Orbit
import GnssParser.Proof.Params
import GnssParser.Proof.Positioning
import GnssParser.Proof.Published
import GnssParser.Proof.PvtWeek
import GnssParser.Proof.RawxGrouping
import GnssParser.Proof.ReceiverConfig
import GnssParser.Proof.ReferenceTime
import GnssParser.Proof.RinexColumns
import GnssParser.Proof.RinexFiles
import GnssParser.Proof.RinexNav
import GnssParser.Proof.RinexWriter
import GnssParser.Proof.RosMessage
import GnssParser.Proof.RtcmBursts
import GnssParser.Proof.RtcmFraming
import GnssParser.Proof.SatelliteClock
import GnssParser.Proof.SatelliteSeparation
import GnssParser.Proof.SatelliteState
import GnssParser.Proof.Satellites
import GnssParser.Proof.SerialReader
import GnssParser.Proof.SolverOrder
import GnssParser.Proof.StateMachine
import GnssParser.Proof.Subframe
import GnssParser.Proof.TcpClient
import GnssParser.Proof.TcpWake
import GnssParser.Proof.UbxFraming
import GnssParser.Proof.WakePipe
import GnssParser.Proof.WeekArithmetic
import GnssParser.Proof.WeekRollover
import GnssParser.Proof.Weights
import GnssParser.Proof.Writers
