import WebhookRelay.Decimal.Float
import WebhookRelay.Text.Quoted
import WebhookRelay.Text.Utf8
import WebhookRelay.Text.Cut
import WebhookRelay.Text.Blank
import WebhookRelay.Digest.Block
import WebhookRelay.Digest.Sha1
import WebhookRelay.Digest.Sha256
import WebhookRelay.Digest.Keyed
import WebhookRelay.Signature
import WebhookRelay.Action
import WebhookRelay.Provider
import WebhookRelay.Timestamp.Reading
import WebhookRelay.Event.Record
import WebhookRelay.Delivery
import WebhookRelay.Url.Punycode
import WebhookRelay.Url.Address
import WebhookRelay.Text.Percent
import WebhookRelay.Text.LowerCase
import WebhookRelay.Url.Domain
import WebhookRelay.Url
import WebhookRelay.Url.Host
import WebhookRelay.Url.Path
import WebhookRelay.Url.Reading
import WebhookRelay.Provider.Guess
import WebhookRelay.Payload.Number
import WebhookRelay.Payload.Spelling
import WebhookRelay.Payload.Shape
import WebhookRelay.Dialect
import WebhookRelay.Dialect.Gitea
import WebhookRelay.Dialect.Gitea.Payload
import WebhookRelay.Dialect.Gogs
import WebhookRelay.Dialect.GitHub
import WebhookRelay.Dialect.GitHub.Payload
import WebhookRelay.Dialect.GitLab
import WebhookRelay.Dialect.GitLab.Payload
import WebhookRelay.Dialect.Bitbucket
import WebhookRelay.Dialect.Bitbucket.Author
import WebhookRelay.Dialect.Bitbucket.Payload
import WebhookRelay.Dialect.Stash
import WebhookRelay.Dialect.Stash.Payload
import WebhookRelay.Dispatch
import WebhookRelay.Provider.Reading
import WebhookRelay.Text.Word
import WebhookRelay.Pattern
import WebhookRelay.Pattern.Reading
import WebhookRelay.Yaml.Node
import WebhookRelay.Receiver
import WebhookRelay.Rule.Reading
import WebhookRelay.Proofs.Table
import WebhookRelay.Proofs.Delivery
import WebhookRelay.Proofs.Dispatch
import WebhookRelay.Proofs.Payload.Record
import WebhookRelay.Proofs.Signature
import WebhookRelay.Proofs.Authenticity
import WebhookRelay.Proofs.Rule
import WebhookRelay.Proofs.Admission
import WebhookRelay.Proofs.Route
import WebhookRelay.Proofs.Status
import WebhookRelay.Proofs.Decoding
import WebhookRelay.Proofs.UnknownEvent
import WebhookRelay.Proofs.Person
import WebhookRelay.Proofs.Push
import WebhookRelay.Proofs.Payload.Grammar
import WebhookRelay.Proofs.Payload.Members
import WebhookRelay.Proofs.Payload.Rewriting
import WebhookRelay.Proofs.Presentation
import WebhookRelay.Proofs.Agreement
import WebhookRelay.Proofs.Noise
import WebhookRelay.Proofs.People
import WebhookRelay.Proofs.Timestamp
import WebhookRelay.Event.Reading
import WebhookRelay.Proofs.Json
import WebhookRelay.Proofs.Record
import WebhookRelay.Proofs.Line
import WebhookRelay.Proofs.Payload.Range
import WebhookRelay.Proofs.Dates
import WebhookRelay.Proofs.Action
import WebhookRelay.Proofs.Body
import WebhookRelay.Proofs.Digest
import WebhookRelay.Proofs.Reference
import WebhookRelay.Proofs.Payload.Exchange
import WebhookRelay.Proofs.Change
import WebhookRelay.Proofs.PushKind
import WebhookRelay.Proofs.PullMark
import WebhookRelay.Proofs.NamedAction
import WebhookRelay.Proofs.Note
import WebhookRelay.Proofs.RepositoryPath
import WebhookRelay.Proofs.MergeHash
import WebhookRelay.Proofs.HostName
import WebhookRelay.Proofs.RepositoryHost
import WebhookRelay.Proofs.ProviderName
import WebhookRelay.Proofs.Query
import WebhookRelay.Proofs.RawAuthor
