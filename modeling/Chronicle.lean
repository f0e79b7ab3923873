import Chronicle.Text.Blank
import Chronicle.Text.Utf8
import Chronicle.Dict
import Chronicle.Number.Digits
import Chronicle.Number.Saturating
import Chronicle.Json.Reader
import Chronicle.Json.Printer
import Chronicle.Digest.Sha256
import Chronicle.Uuid
import Chronicle.Instant.Text
import Chronicle.Guide.Basic
import Chronicle.Yaml.Shape
import Chronicle.Guide.Yaml
import Chronicle.Guide.Library
import Chronicle.Guide.Folder
import Chronicle.Sample.NightOfTheZealot
import Chronicle.Sample.Fairground
import Chronicle.Record.Json
import Chronicle.Journal.Merge
import Chronicle.Journal.Json
import Chronicle.CampaignLog.Json
import Chronicle.Progress.Json
import Chronicle.Play.Json
import Chronicle.Campaign.Basic
import Chronicle.Service.Query
import Chronicle.Web.Target
import Chronicle.Web.MediaType
import Chronicle.Web.Server
import Chronicle.Settings
import Chronicle.Proofs.Dict
import Chronicle.Proofs.Play.Arrange
import Chronicle.Proofs.Play.Starts
import Chronicle.Proofs.Play.Order
import Chronicle.Proofs.Play.Anchor
import Chronicle.Proofs.Play.Alike
import Chronicle.Proofs.Play.Walk
import Chronicle.Proofs.Play.Visit
import Chronicle.Proofs.Play.Edits
import Chronicle.Proofs.Play.Roster
import Chronicle.Proofs.Play.Achievements
import Chronicle.Proofs.Play.Reports
import Chronicle.Proofs.Play.Repetition
import Chronicle.Proofs.Instant.Order
import Chronicle.Proofs.Journal.Chronology
import Chronicle.Proofs.Journal.Replay
import Chronicle.Proofs.Journal.Merge
import Chronicle.Proofs.Journal.Retraction
import Chronicle.Proofs.Journal.Stacks
import Chronicle.Proofs.Journal.Inverse
import Chronicle.Proofs.Json.Codec
import Chronicle.Proofs.Json.Record
import Chronicle.Proofs.Instant.Text
import Chronicle.Proofs.Journal.Json
import Chronicle.Proofs.Uuid
import Chronicle.Proofs.Record.Json
import Chronicle.Proofs.Campaign.Event
import Chronicle.Proofs.Campaign.History
import Chronicle.Proofs.Service.Storage
import Chronicle.Proofs.Service.Handling
import Chronicle.Proofs.Service.Concurrency
import Chronicle.Proofs.Service.Requests
import Chronicle.Proofs.Service.Reading
import Chronicle.Proofs.Service.Retry
import Chronicle.Proofs.Journal.Conservation
import Chronicle.Proofs.Journal.Convergence
import Chronicle.Proofs.Play.Supersession
import Chronicle.Proofs.Play.Neutral
import Chronicle.Proofs.Play.Placement
import Chronicle.Proofs.Play.Summary
import Chronicle.Proofs.Play.Causality
import Chronicle.Proofs.Play.Agreement
import Chronicle.Proofs.Play.Turns
import Chronicle.Proofs.Play.Containment
import Chronicle.Proofs.Play.Experience
import Chronicle.Proofs.Play.Fitting
import Chronicle.Proofs.Play.Answers
import Chronicle.Proofs.Guide.Issues
import Chronicle.Proofs.Play.Advance
import Chronicle.Proofs.Play.References
import Chronicle.Proofs.Service.Caching
import Chronicle.Proofs.Campaign.Calls
import Chronicle.Proofs.Json.Lexer
import Chronicle.Proofs.Json.Text
import Chronicle.Proofs.Json.Nesting
import Chronicle.Proofs.Guide.Json
import Chronicle.Proofs.Guide.Document
import Chronicle.Proofs.Guide.Structure
import Chronicle.Proofs.Play.Course
import Chronicle.Proofs.Play.Halts
import Chronicle.Proofs.Play.Tidy
import Chronicle.Proofs.Journal.Clearance
import Chronicle.Proofs.Play.AchievementRules
import Chronicle.Proofs.Play.Onward
import Chronicle.Proofs.CampaignLog.Json
import Chronicle.Proofs.Play.Json
