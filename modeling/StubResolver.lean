import StubResolver.Main
import StubResolver.Proofs.AddressFamily
import StubResolver.Proofs.Answers
import StubResolver.Proofs.ArgumentOrder
import StubResolver.Proofs.CacheHistory
import StubResolver.Proofs.CandidateOrder
import StubResolver.Proofs.CandidateQueries
import StubResolver.Proofs.CertificateForm
import StubResolver.Proofs.CertificatePublication
import StubResolver.Proofs.CertificateUse
import StubResolver.Proofs.ChaseLimit
import StubResolver.Proofs.Clock
import StubResolver.Proofs.Curve.Ed25519
import StubResolver.Proofs.Curve.Edwards
import StubResolver.Proofs.Curve.FieldPrime
import StubResolver.Proofs.Disclosure
import StubResolver.Proofs.Footprint
import StubResolver.Proofs.NameForm
import StubResolver.Proofs.NameserverText
import StubResolver.Proofs.Negotiation
import StubResolver.Proofs.Nonces
import StubResolver.Proofs.Origin
import StubResolver.Proofs.PublicationForm
import StubResolver.Proofs.QueryForm
import StubResolver.Proofs.Resolver
import StubResolver.Proofs.Scheme
import StubResolver.Proofs.SearchSettings
import StubResolver.Proofs.ServerSelection
import StubResolver.Proofs.SessionResponses
import StubResolver.Proofs.Stamp
import StubResolver.Proofs.StampAddress
import StubResolver.Proofs.StampGrammar
import StubResolver.Proofs.SystemAddresses
import StubResolver.Proofs.Targets
import StubResolver.Proofs.TransportAgreement
