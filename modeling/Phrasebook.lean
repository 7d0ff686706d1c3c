import Phrasebook.Main
import Phrasebook.Source.Scripted
import Phrasebook.Text.Basic
import Phrasebook.Proofs.Source.Offline
import Phrasebook.Proofs.Store.History
import Phrasebook.Proofs.Template.Evaluation
import Phrasebook.Proofs.Template.Requests
import Phrasebook.Proofs.Template.RoundTrip
import Phrasebook.Proofs.Traffic.Overlap
import Phrasebook.Proofs.Translator.Translation
import Phrasebook.Proofs.Store.Arrival
import Phrasebook.Proofs.Json.Collapse
import Phrasebook.Proofs.Retry
import Phrasebook.Proofs.Source.Exchanges
import Phrasebook.Proofs.Json.Levels
import Phrasebook.Proofs.Json.Scalars
import Phrasebook.Proofs.Json.RoundTrip
import Phrasebook.Proofs.Cache.RoundTrip
import Phrasebook.Proofs.Template.Detection
import Phrasebook.Proofs.Translator.FailedLoads
import Phrasebook.Proofs.Source.Faulty
import Phrasebook.Proofs.Cache.Backends
import Phrasebook.Proofs.Cache.Freshness
import Phrasebook.Proofs.Cache.Atomicity
import Phrasebook.Proofs.Cache.Contents
import Phrasebook.Proofs.Dictionary.Listing
import Phrasebook.Proofs.Dictionary.Merging
import Phrasebook.Proofs.Template.Reordering
import Phrasebook.Proofs.Template.PlainMessages
import Phrasebook.Proofs.BoundedCache
import Phrasebook.Proofs.Plural
import Phrasebook.Proofs.Locale
import Phrasebook.Proofs.Retry.Counter
import Phrasebook.Proofs.Translator.Configured
