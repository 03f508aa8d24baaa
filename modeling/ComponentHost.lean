import ComponentHost.Json.Reader
import ComponentHost.Main
import ComponentHost.Session
import ComponentHost.Proofs.Confinement
import ComponentHost.Proofs.IdentityInput
import ComponentHost.Proofs.AbsolutePath
import ComponentHost.Proofs.Retention
import ComponentHost.Proofs.Rounding
import ComponentHost.Proofs.NumberText
import ComponentHost.Proofs.ValueText
import ComponentHost.Proofs.ArgumentMap
import ComponentHost.Proofs.Registrations
import ComponentHost.Proofs.CallFailures
import ComponentHost.Proofs.AssetAddress
import ComponentHost.Proofs.Descent
import ComponentHost.Proofs.Segments
import ComponentHost.Proofs.CachePolicy
import ComponentHost.Proofs.NodeContents
import ComponentHost.Proofs.ComponentNames
import ComponentHost.Proofs.AnchoredPath
import ComponentHost.Proofs.CanonicalPath
import ComponentHost.Proofs.RelativePath
import ComponentHost.Proofs.CallerNames
import ComponentHost.Proofs.Respelling
import ComponentHost.Proofs.UndecodableTails
import ComponentHost.Proofs.Responses
import ComponentHost.Proofs.CrossOrigin
import ComponentHost.Proofs.Obstacles
import ComponentHost.Proofs.WrittenOptions
import ComponentHost.Proofs.StartingUp
import ComponentHost.Proofs.DirectoryIdentities
import ComponentHost.Proofs.RequestText
import ComponentHost.Proofs.DefaultDocument
