import Vena.Core.Run
import Vena.Core.Answers
import Vena.Core.Processes
import Vena.Core.Keyed
import Vena.Core.ReadCommitted
import Vena.Core.DropOldest
import Vena.Core.Saturation
import Vena.Core.Clock32
import Vena.Core.PeriodicTimer
import Vena.Core.Backoff
import Vena.Core.Json
import Vena.Core.GroupBy
import Vena.Core.Newest
import Vena.Core.TopicFilter
import Vena.Core.Utf8
import Vena.Core.Decimal
import Vena.Core.Base64
import Vena.Core.Gregorian
import Vena.Python.IntOfStr
import Vena.Python.Str
import Vena.Python.Uuid
import Vena.Python.UuidText
import Vena.Python.Binary64
import Vena.Python.Value
import Vena.Python.Timestamp
import Vena.Python.Decode
import Vena.Python.JsonLoads
import Vena.Python.PrintedJson
import Vena.Firmware.OfflineBuffer
import Vena.Firmware.BufferRefines
import Vena.Firmware.PeltierController
import Vena.Firmware.CoolingMonotone
import Vena.Firmware.PidLoop
import Vena.Firmware.ArduinoJson
import Vena.Firmware.CommandHandler
import Vena.Firmware.SensorManager
import Vena.Firmware.TelemetryLoop
import Vena.Firmware.SampleLog
import Vena.Firmware.TelemetryJson
import Vena.Firmware.ClockSync
import Vena.Firmware.PeriodicTasks
import Vena.Firmware.Network
import Vena.Firmware.PendingProvision
import Vena.Firmware.ProvisionWrite
import Vena.Firmware.Reconnect
import Vena.Firmware.Board
import Vena.Firmware.WifiStatus
import Vena.Firmware.ProvisionedWifi
import Vena.Firmware.JwtContinuity
import Vena.Firmware.DisplayManager
import Vena.Firmware.DeviceId
import Vena.Backend.Models
import Vena.Backend.Jwt
import Vena.Backend.RefreshToken
import Vena.Backend.SingleUse
import Vena.Backend.AtomicRefresh
import Vena.Backend.Database
import Vena.Backend.Devices
import Vena.Backend.Access
import Vena.Backend.UserIsolation
import Vena.Backend.TopicAcl
import Vena.Backend.TokenKinds
import Vena.Backend.TokenText
import Vena.Backend.History
import Vena.Backend.AggregateSql
import Vena.Backend.TelemetryStore
import Vena.Backend.Retention
import Vena.Backend.Paging
import Vena.Backend.ZoomOut
import Vena.Backend.Ingest
import Vena.Backend.Batching
import Vena.Backend.Ingestor
import Vena.Backend.IngestDelivery
import Vena.Backend.IngestMeta
import Vena.Backend.IngestHandled
import Vena.Backend.IngestSurvival
import Vena.Backend.IngestLedger
import Vena.Backend.IngestFailure
import Vena.Backend.IngestEnds
import Vena.Backend.TelemetryWire
import Vena.Backend.BoardMessages
import Vena.Backend.StoreForward
import Vena.Backend.MetaRoute
import Vena.Backend.Interference
import Vena.Backend.Shutdown
import Vena.Backend.StatementSize
import Vena.Backend.Seeding
import Vena.Backend.Claimable
import Vena.Backend.PairingAnswers
import Vena.Backend.ConcurrentClaim
import Vena.Backend.ConcurrentLogin
import Vena.Backend.PairingCode
import Vena.Mobile.AuthInterceptor
import Vena.Mobile.Dio
import Vena.Mobile.JsonDecode
import Vena.Mobile.Double
import Vena.Mobile.Num
import Vena.Mobile.JsonEncode
import Vena.Mobile.JsonText
import Vena.Mobile.DartDateTime
import Vena.Mobile.ServerInstant
import Vena.Mobile.TelemetryPoint
import Vena.Mobile.HistoryProvider
import Vena.Mobile.HistoryAge
import Vena.Mobile.Utf8Encode
import Vena.Mobile.PoisonEntry
import Vena.Mobile.RefreshOutcome
import Vena.Mobile.Outbox
import Vena.Mobile.OutboxOrder
import Vena.Mobile.LastWriteWins
import Vena.Mobile.OutboxOwed
import Vena.Mobile.Accounts
import Vena.Mobile.AccountIsolation
import Vena.Mobile.DeviceList
import Vena.Mobile.HistoryCoverage
import Vena.Mobile.TelemetryMerge
import Vena.Mobile.PruneNewest
import Vena.Mobile.MergeOrder
import Vena.Mobile.SnapshotAgrees
import Vena.Mobile.RecentCache
import Vena.Mobile.MessageHandler
import Vena.Mobile.BoardTelemetry
import Vena.Mobile.SameNumber
import Vena.Mobile.StoredNumber
import Vena.Mobile.SameReading
import Vena.Mobile.ProvisionDevice
import Vena.Mobile.DeviceSync
import Vena.Mobile.PendingRename
import Vena.Mobile.MqttService
import Vena.Mobile.FinalDisconnect
import Vena.Mobile.OneClient
import Vena.Mobile.Monitoring
import Vena.Mobile.Unmonitored
import Vena.Mobile.TokenExpiry
import Vena.Mobile.BoardReport
import Vena.Mobile.TokenRenewal
import Vena.Mobile.Pairing
import Vena.Mobile.PairingReset
import Vena.Mobile.ProvisionPayload
import Vena.Mobile.BleService
import Vena.Mobile.BleAutoConnect
import Vena.Mobile.BleStatus
import Vena.Mobile.BleWatch
import Vena.Mobile.TelemetrySender
