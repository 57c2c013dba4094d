import FleetLink.Log.Output
import FleetLink.Row.Logging
import FleetLink.Query.Lookup
import FleetLink.Settings.Load
import FleetLink.Users
import FleetLink.Proofs.DriverForms
import FleetLink.Proofs.QuerySession
import FleetLink.Proofs.RowFailure
import FleetLink.Proofs.FilterText
import FleetLink.Proofs.LetterCase
import FleetLink.Proofs.Retrying
import FleetLink.Proofs.DeepWriting
import FleetLink.Proofs.InPlaceWriting
import FleetLink.Proofs.SettingOverrides
import FleetLink.Proofs.SettingChecks
import FleetLink.Proofs.SecureAddresses
import FleetLink.Proofs.RowProjection
import FleetLink.Proofs.StrictJson
import FleetLink.Proofs.JsonWriting
import FleetLink.Proofs.Payloads
import FleetLink.Proofs.RecordText
import FleetLink.Proofs.Disclosure
import FleetLink.Proofs.DeviceLookups
import FleetLink.Proofs.LoadFailure
import FleetLink.Proofs.RowEvents
import FleetLink.Proofs.BinaryRounding
import FleetLink.Proofs.RetryPauses
import FleetLink.Proofs.ServiceNames
import FleetLink.Proofs.StampText
import FleetLink.Proofs.RecordRestoring
import FleetLink.Proofs.UserAnswers
import FleetLink.Proofs.OverrideNames
import FleetLink.Proofs.AlikeSettings
import FleetLink.Proofs.SharedCells
import FleetLink.Proofs.WrittenSettings
import FleetLink.Proofs.Contracts
import FleetLink.Proofs.ComposedNodes
import FleetLink.Proofs.MadeCells
import FleetLink.Proofs.OverrideMeaning
import FleetLink.Proofs.LabelIndex
import FleetLink.Proofs.EpochMillis
import FleetLink.Proofs.FieldSearch
import FleetLink.Proofs.HiddenFields
import FleetLink.Proofs.OverrideMatching
import FleetLink.Proofs.RowQuestions
import FleetLink.Proofs.ConditionReading
import FleetLink.Proofs.FilterMeaning
import FleetLink.Proofs.IntegerColumns
