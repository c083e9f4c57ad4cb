import Signal2sip.Daemon.CallSignaling
import Signal2sip.Daemon.Calls
import Signal2sip.Daemon.Config
import Signal2sip.Daemon.DispatchQueue
import Signal2sip.Daemon.MainLoop
import Signal2sip.Daemon.Prekeys
import Signal2sip.Daemon.Push
import Signal2sip.Daemon.Reload
import Signal2sip.Daemon.Routing
import Signal2sip.Daemon.Setup
import Signal2sip.Daemon.State
import Signal2sip.Daemon.StorageSync
import Signal2sip.Daemon.Teardown
import Signal2sip.Gendb.Captcha
import Signal2sip.Gendb.Commands
import Signal2sip.Gendb.ConcurrentWrites
import Signal2sip.Gendb.ConfigFields
import Signal2sip.Laws.AccountIsolation
import Signal2sip.Laws.AccountWrites
import Signal2sip.Laws.CallIsolation
import Signal2sip.Laws.CallSteps
import Signal2sip.Laws.ConfigEdits
import Signal2sip.Laws.ContactSync
import Signal2sip.Laws.DispatchOrder
import Signal2sip.Laws.FailClosed
import Signal2sip.Laws.GendbRows
import Signal2sip.Laws.InviteRouting
import Signal2sip.Laws.KeysAuthority
import Signal2sip.Laws.KeysFrame
import Signal2sip.Laws.LegLifetimes
import Signal2sip.Laws.LostDisconnects
import Signal2sip.Laws.LostUpdates
import Signal2sip.Laws.MigratedContacts
import Signal2sip.Laws.MigrationKills
import Signal2sip.Laws.MigrationRaces
import Signal2sip.Laws.MigrationStages
import Signal2sip.Laws.OneCall
import Signal2sip.Laws.OneNumber
import Signal2sip.Laws.Ownership
import Signal2sip.Laws.PrekeyAgreement
import Signal2sip.Laws.ReadFailures
import Signal2sip.Laws.RegistrationGate
import Signal2sip.Laws.ReloadConvergence
import Signal2sip.Laws.ReloadPass
import Signal2sip.Laws.SampleOrder
import Signal2sip.Laws.SendReports
import Signal2sip.Laws.SessionSerial
import Signal2sip.Laws.SetupAtomicity
import Signal2sip.Laws.TeardownSafety
import Signal2sip.Laws.TouchTones
import Signal2sip.Laws.TrustStore
import Signal2sip.Laws.TuiEdits
import Signal2sip.Lib.Agree
import Signal2sip.Lib.Columns
import Signal2sip.Lib.CxxString
import Signal2sip.Lib.Locked
import Signal2sip.Lib.Migration
import Signal2sip.Lib.Noninterference
import Signal2sip.Lib.Reconcile
import Signal2sip.Lib.Ring
import Signal2sip.Lib.RowIds
import Signal2sip.Lib.Run
import Signal2sip.Lib.Script
import Signal2sip.Lib.Sqlite
import Signal2sip.Lib.Table
import Signal2sip.Lib.UniqueRows
import Signal2sip.Signal.AuthSocket
import Signal2sip.Signal.Crypto
import Signal2sip.Signal.ProtocolStores
import Signal2sip.Storage.AccountColumns
import Signal2sip.Storage.Calls
import Signal2sip.Storage.ContactIds
import Signal2sip.Storage.Migration
import Signal2sip.Storage.OwnRows
import Signal2sip.Storage.Records
import Signal2sip.Storage.Storage
import Signal2sip.Storage.SyncedContacts
import Signal2sip.Tui.ConfigEditor
import Signal2sip.Voip.RingBuffer
import Signal2sip.Laws.FeederLifecycle
import Signal2sip.Signal.ConnectState
import Signal2sip.Laws.ConnectHandOff
import Signal2sip.Laws.ConnectModels
import Signal2sip.Signal.ChatHandle
import Signal2sip.Daemon.PushCallback
import Signal2sip.Laws.LiveHandle
import Signal2sip.Laws.PushExceptions
import Signal2sip.Tools.IsolateSymbols
import Signal2sip.Laws.SymbolIsolation
import Signal2sip.Laws.SyncedContactEffect
import Signal2sip.Lib.Transaction
import Signal2sip.Storage.Connection
import Signal2sip.Laws.AccountRemoval
import Signal2sip.Laws.FinishedAccounts
import Signal2sip.Lib.Like
import Signal2sip.Laws.KnownDevices
import Signal2sip.Daemon.ContactResolver
import Signal2sip.Laws.ContactResolution
import Signal2sip.Laws.Padding
import Signal2sip.Laws.Base64
import Signal2sip.Laws.RingQueue
import Signal2sip.Laws.AudioWiring
import Signal2sip.Lib.Alone
import Signal2sip.Laws.DeviceListCache
import Signal2sip.Laws.SelfAddressing
import Signal2sip.Laws.CallMessageParts
import Signal2sip.Daemon.ConfigFile
import Signal2sip.Gendb.Bootstrap
import Signal2sip.Laws.ConfigBootstrap
import Signal2sip.Laws.NumericSettings
import Signal2sip.Laws.CaptchaToken
import Signal2sip.Gendb.LinkUrl
import Signal2sip.Laws.LinkUrl
import Signal2sip.Gendb.ProvisioningCipher
import Signal2sip.Laws.ProvisioningCipher
import Signal2sip.Gendb.ProvisioningClient
import Signal2sip.Laws.ProvisioningWait
import Signal2sip.Gendb.QrCode
import Signal2sip.Laws.QrText
import Signal2sip.Lib.Crc32
import Signal2sip.Lib.Endian
import Signal2sip.Lib.Zlib
import Signal2sip.Lib.Png
import Signal2sip.Gendb.QrPng
import Signal2sip.Laws.StoredStream
import Signal2sip.Laws.QrPng
import Signal2sip.Lib.Ar
import Signal2sip.Tools.Archive
import Signal2sip.Laws.ArchiveRewriting
import Signal2sip.Gendb.ConfigColumns
import Signal2sip.Lib.Registers
import Signal2sip.Laws.ConfigLens
import Signal2sip.Gendb.Main
import Signal2sip.Tui.RunGendb
import Signal2sip.Laws.TuiArguments
import Signal2sip.Lib.Crc32Division
import Signal2sip.Lib.Phases
import Signal2sip.Tui.Screens
import Signal2sip.Laws.TuiConfirmation
import Signal2sip.Laws.TuiScreens
import Signal2sip.Laws.TuiVisits
import Signal2sip.Laws.TuiLinkThread
import Signal2sip.Laws.TuiWizard
import Signal2sip.Daemon.StorageService
import Signal2sip.Laws.StorageTrust
import Signal2sip.Laws.StorageDelivery
import Signal2sip.Gendb.Registration
import Signal2sip.Lib.Log
import Signal2sip.Laws.RegistrationAgreement
import Signal2sip.Laws.AudioBridge
import Signal2sip.Laws.StorageHistory
import Signal2sip.Laws.StorageOwners
