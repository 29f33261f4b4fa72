import SecretBroker.Text.Utf8
import SecretBroker.Text.Unsigned
import SecretBroker.Span.Text
import SecretBroker.ServiceError
import SecretBroker.Cli.Command
import SecretBroker.Cli.Output
import SecretBroker.Entry.Decode
import SecretBroker.Json.Writer
import SecretBroker.Net.Network
import SecretBroker.Net.Url
import SecretBroker.Token
import SecretBroker.Http.Response
import SecretBroker.Settings.Check
import SecretBroker.LogFilter
import SecretBroker.Counter
import SecretBroker.RateLimit
import SecretBroker.Allowlist
import SecretBroker.Http.Client
import SecretBroker.Rehearsal.Lookups
import SecretBroker.Rehearsal.Requests
import SecretBroker.Rehearsal.Sessions
import SecretBroker.Rehearsal.Exchanges
import SecretBroker.Rehearsal.Ranges
import SecretBroker.Rehearsal.Connected
import SecretBroker.DotEnv
import SecretBroker.Rehearsal.Launch
import SecretBroker.Main
import SecretBroker.Proofs.CacheEntries
import SecretBroker.Proofs.Provenance
import SecretBroker.Proofs.ForwardedClient
import SecretBroker.Proofs.AccessGate
import SecretBroker.Proofs.TokenCalls
import SecretBroker.Proofs.TurnQueue
import SecretBroker.Proofs.SingleFlight
import SecretBroker.Proofs.CacheHistory
import SecretBroker.Proofs.Refreshing
import SecretBroker.Proofs.ClientPlay
import SecretBroker.Proofs.SessionProtocol
import SecretBroker.Proofs.TokenListings
import SecretBroker.Proofs.RejectedTokens
import SecretBroker.Proofs.CommandSecrets
import SecretBroker.Proofs.TokenDiscards
import SecretBroker.Proofs.ServiceFailures
import SecretBroker.Proofs.ClientFailures
import SecretBroker.Proofs.FailureResponses
import SecretBroker.Proofs.SessionCalls
import SecretBroker.Proofs.SessionTurns
import SecretBroker.Proofs.SessionTalks
import SecretBroker.Proofs.SessionRefreshes
import SecretBroker.Proofs.BucketLevels
import SecretBroker.Proofs.ClientBudgets
import SecretBroker.Proofs.NetworkPrefixes
import SecretBroker.Proofs.AllowlistRefreshes
import SecretBroker.Proofs.AnswerCourses
import SecretBroker.Proofs.CutAnswers
import SecretBroker.Proofs.AcceptedSettings
import SecretBroker.Proofs.Chores
import SecretBroker.Proofs.LastingSpans
import SecretBroker.Proofs.NameRejection
import SecretBroker.Proofs.ResolveCalls
import SecretBroker.Proofs.PathNames
import SecretBroker.Proofs.LookupAccounts
import SecretBroker.Proofs.AcceptedKeys
import SecretBroker.Proofs.RequestCalls
import SecretBroker.Proofs.RequestCounts
import SecretBroker.Proofs.AllowedCommands
import SecretBroker.Proofs.TrafficBounds
import SecretBroker.Proofs.RetryTimes
import SecretBroker.Proofs.TokenLifetimes
import SecretBroker.Proofs.ClientLookups
import SecretBroker.Proofs.EntryValues
import SecretBroker.Proofs.NamedEntries
import SecretBroker.Proofs.SharedSession
import SecretBroker.Proofs.SearchedNames
import SecretBroker.Proofs.TrackedClients
import SecretBroker.Proofs.SweptEntries
import SecretBroker.Proofs.ListedAddresses
import SecretBroker.Proofs.JsonReadings
import SecretBroker.Proofs.TrimmedTexts
import SecretBroker.Proofs.SoleMembers
import SecretBroker.Proofs.EntryRenderings
import SecretBroker.Proofs.ClientNotations
import SecretBroker.Proofs.LoginStreams
