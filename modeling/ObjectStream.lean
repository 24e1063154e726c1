import ObjectStream.Base64.InPlace
import ObjectStream.ReceiveBuffer.Storage
import ObjectStream.HeadReader.Rounds
import ObjectStream.Transport.Script
import ObjectStream.Transfer
import ObjectStream.ObjectAddress.Slices
import ObjectStream.Settings.File
import ObjectStream.Proofs.EncodedSpace
import ObjectStream.Proofs.Signing
import ObjectStream.Proofs.SignedText
import ObjectStream.Proofs.StoredQueue
import ObjectStream.Proofs.CarriedLine
import ObjectStream.Proofs.HeadRuns
import ObjectStream.Proofs.Hearing
import ObjectStream.Proofs.RequestLines
import ObjectStream.Proofs.RequestReading
import ObjectStream.Proofs.Resumption
import ObjectStream.Proofs.Exchange
import ObjectStream.Proofs.FieldLookup
import ObjectStream.Proofs.BodyReading
import ObjectStream.Proofs.ChunkFraming
import ObjectStream.Proofs.Upload
import ObjectStream.Proofs.HeadFirst
import ObjectStream.Proofs.Lifecycle
import ObjectStream.Proofs.Failures
import ObjectStream.Proofs.Reopening
import ObjectStream.Proofs.Secrecy
import ObjectStream.Proofs.WriteAll
import ObjectStream.Proofs.UnusableStream
import ObjectStream.Proofs.ObjectPath
import ObjectStream.Proofs.WrittenPath
import ObjectStream.Proofs.UrlOpening
import ObjectStream.Proofs.ObjectUrl
import ObjectStream.Proofs.Layers
