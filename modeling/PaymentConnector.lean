import PaymentConnector.Main
import PaymentConnector.Session
import PaymentConnector.Proofs.AnswerSchemas
import PaymentConnector.Proofs.AuthorizationBodies
import PaymentConnector.Proofs.DumpedCalls
import PaymentConnector.Proofs.RedirectTargets
import PaymentConnector.Proofs.RequestRefusals
import PaymentConnector.Proofs.ResponseRuns
import PaymentConnector.Proofs.SecretFlow
import PaymentConnector.Proofs.ReaderFindings
import PaymentConnector.Proofs.SpelledStrings
import PaymentConnector.Proofs.WireBodies
import PaymentConnector.Proofs.NestedValues
import PaymentConnector.Proofs.SpelledValues
import PaymentConnector.Proofs.WrittenTexts
import PaymentConnector.Proofs.EncodedTexts
import PaymentConnector.Proofs.TextAnswers
import PaymentConnector.Proofs.AgreeingReaders
import PaymentConnector.Proofs.HeldTexts
import PaymentConnector.Proofs.ReadValues
import PaymentConnector.Proofs.ReceivedTexts
import PaymentConnector.Proofs.FittingNumbers
import PaymentConnector.Proofs.WritableDumps
import PaymentConnector.Proofs.PlainRequests
import PaymentConnector.Proofs.ToldTroubles
import PaymentConnector.Proofs.AllOrNothing
import PaymentConnector.Proofs.CarriedObjects
import PaymentConnector.Proofs.ReturnedIdentifiers
import PaymentConnector.Proofs.CutAddresses
import PaymentConnector.Proofs.BaseAddresses
import PaymentConnector.Proofs.EndpointSegments
import PaymentConnector.Proofs.StableEndpoints
import PaymentConnector.Proofs.EscapedFields
import PaymentConnector.Proofs.RedirectFields
import PaymentConnector.Proofs.TrimmedTexts
import PaymentConnector.Proofs.WholeNumberTexts
import PaymentConnector.Proofs.RequestFields
import PaymentConnector.Proofs.StoredCurrencies
import PaymentConnector.Proofs.SentAmounts
import PaymentConnector.Proofs.JsonTexts
import PaymentConnector.Proofs.ReadTexts
import PaymentConnector.Proofs.HeldObjects
import PaymentConnector.Proofs.DeepTexts
import PaymentConnector.Proofs.DeclaredKeys
import PaymentConnector.Proofs.ErrorPayloads
import PaymentConnector.Proofs.PayerNames
import PaymentConnector.Proofs.RequestAddresses
import PaymentConnector.Proofs.PunycodeLabels
import PaymentConnector.Proofs.StableDomains
import PaymentConnector.Proofs.StableHosts
import PaymentConnector.Proofs.StablePaths
import PaymentConnector.Proofs.StableAuthorities
import PaymentConnector.Proofs.StableBodies
import PaymentConnector.Proofs.StableUrls
import PaymentConnector.Proofs.RestoredAnswers
import PaymentConnector.Proofs.SessionRuns
