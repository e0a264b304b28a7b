import SmartTag.Basic
import SmartTag.Lib.LittleEndian
import SmartTag.Lib.Nor
import SmartTag.Lib.Circular
import SmartTag.Lib.Numbered
import SmartTag.Storage.Slot
import SmartTag.Storage.FlashManager
import SmartTag.Storage.Ring
import SmartTag.Storage.Contents
import SmartTag.Storage.Boot
import SmartTag.Storage.History
import SmartTag.Lib.Run
import SmartTag.Storage.PowerLoss
import SmartTag.Storage.Records
import SmartTag.Storage.FlashCalls
import SmartTag.Storage.Wear
import SmartTag.Storage.TornWrite
import SmartTag.Storage.Holes
import SmartTag.Storage.Faults
import SmartTag.Ble.LogStream
import SmartTag.Ble.Transfer
import SmartTag.Ble.Download
import SmartTag.Ble.Delivery
import SmartTag.Ble.LogWire
import SmartTag.Ble.LogSession
import SmartTag.Ble.Archive
import SmartTag.Lib.Packed
import SmartTag.App.Types
import SmartTag.Storage.ConfigMigrate
import SmartTag.App.Alarms
import SmartTag.Storage.ConfigStorage
import SmartTag.App.AppState
import SmartTag.App.BootEpoch
import SmartTag.Motion.ShockDetector
import SmartTag.Motion.MotionManager
import SmartTag.App.AppConfig
import SmartTag.Lib.Doorbell
import SmartTag.Lib.Mailbox
import SmartTag.Lib.ReadModifyWrite
import SmartTag.App.SavedSettings
import SmartTag.App.ConfigWrite
import SmartTag.App.ConfigRace
import SmartTag.App.FactoryReset
import SmartTag.Lib.Flags
import SmartTag.App.AlarmLatch
import SmartTag.App.EventQueue
import SmartTag.Zigbee.Clusters
import SmartTag.Zigbee.Publish
import SmartTag.Zigbee.Callbacks
import SmartTag.Zigbee.Heartbeat
import SmartTag.App.Counters
import SmartTag.App.LifetimeStatistics
import SmartTag.Motion.MotionRun
import SmartTag.Motion.Episodes
import SmartTag.Motion.Tamper
import SmartTag.App.Impact
import SmartTag.Ble.EventNotify
import SmartTag.Ble.Notifications
import SmartTag.Ble.CommandSlot
import SmartTag.App.EventOrder
import SmartTag.App.AlarmEdges
import SmartTag.Lib.ByteMemory
import SmartTag.Storage.SettingsFormat
import SmartTag.Power.Sampling
import SmartTag.Power.ServiceWindow
import SmartTag.App.StartUp
import SmartTag.Zigbee.Network
import SmartTag.Zigbee.TagMonitor
import SmartTag.App.ImpactEvents
import SmartTag.App.SampleViews
import SmartTag.App.Supervision
import SmartTag.App.HourlySave
import SmartTag.App.TamperMirror
import SmartTag.Lib.DigitSqrt
import SmartTag.Motion.Orientation
import SmartTag.Ui.Blink
import SmartTag.Ui.Button
import SmartTag.Sensors.Magnitude
import SmartTag.Sensors.SensorManager
import SmartTag.Sensors.Validity
import SmartTag.Lib.Crc
import SmartTag.Storage.SlotCorruption
import SmartTag.App.GasBaseline
import SmartTag.Zigbee.Quiet
import SmartTag.Ble.Commands
