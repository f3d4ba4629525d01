import AutomationBoard.Board.AnalogInputs
import AutomationBoard.Board.InputPath
import AutomationBoard.Board.MainLoop
import AutomationBoard.Board.OutputPath
import AutomationBoard.Board.PortProgress
import AutomationBoard.Board.PortRouting
import AutomationBoard.Canopen.Coherence
import AutomationBoard.Canopen.DictionaryRead
import AutomationBoard.Canopen.Download
import AutomationBoard.Canopen.EventTimer
import AutomationBoard.Canopen.Gating
import AutomationBoard.Canopen.Heartbeat
import AutomationBoard.Canopen.ImageSharing
import AutomationBoard.Canopen.InhibitTime
import AutomationBoard.Canopen.Network
import AutomationBoard.Canopen.Reset
import AutomationBoard.Canopen.SegmentedUpload
import AutomationBoard.Canopen.TransferLife
import AutomationBoard.Canopen.WriteCallback
import AutomationBoard.Modbus.Broadcast
import AutomationBoard.Modbus.BusRelease
import AutomationBoard.Modbus.Channel
import AutomationBoard.Modbus.Completions
import AutomationBoard.Modbus.Counters
import AutomationBoard.Modbus.CrcDetection
import AutomationBoard.Modbus.EndToEnd
import AutomationBoard.Modbus.EventLog
import AutomationBoard.Modbus.Exceptions
import AutomationBoard.Modbus.FifoReads
import AutomationBoard.Modbus.FileCodec
import AutomationBoard.Modbus.ForeignTraffic
import AutomationBoard.Modbus.FrontEnds
import AutomationBoard.Modbus.InputsHook
import AutomationBoard.Modbus.ListenOnly
import AutomationBoard.Modbus.MasterBroadcast
import AutomationBoard.Modbus.MultiDropMaster
import AutomationBoard.Modbus.ParserSoundness
import AutomationBoard.Modbus.Precedence
import AutomationBoard.Modbus.Refinement.Tables
import AutomationBoard.Modbus.RegisterMap
import AutomationBoard.Modbus.RequestLength
import AutomationBoard.Modbus.Safety
import AutomationBoard.Modbus.Unicast
import AutomationBoard.Modbus.WriteEcho
import AutomationBoard.Modbus.WriteHook
import AutomationBoard.Serial.FrameLoss
import AutomationBoard.Serial.FramingSoundness
import AutomationBoard.Serial.Timebase
import AutomationBoard.Serial.TimeoutAccuracy
import AutomationBoard.Serial.TimerInvariant
import AutomationBoard.Board.LinkExchange
