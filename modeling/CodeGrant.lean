import CodeGrant.Cli.Run
import CodeGrant.Main
import CodeGrant.Proofs.Config
import CodeGrant.Proofs.Config.Environment
import CodeGrant.Proofs.Form.FirstValue
import CodeGrant.Proofs.Interleaving.Rivals
import CodeGrant.Proofs.Redemption.Attempts
import CodeGrant.Proofs.Server.AuthorizationDecision
import CodeGrant.Proofs.Server.Challenge
import CodeGrant.Proofs.Server.Commutation
import CodeGrant.Proofs.Server.Completeness
import CodeGrant.Proofs.Server.FrontDoor
import CodeGrant.Proofs.Server.IssuedClaims
import CodeGrant.Proofs.Server.Keys
import CodeGrant.Proofs.Server.Reachable
import CodeGrant.Proofs.Server.RedirectUris
import CodeGrant.Proofs.Server.RegistrationMembers
import CodeGrant.Proofs.Server.Secrets
import CodeGrant.Proofs.Server.Soundness
import CodeGrant.Proofs.Token.Documents
import CodeGrant.Proofs.Token.Numbers
import CodeGrant.Server.Start
import CodeGrant.Proofs.Pkce
