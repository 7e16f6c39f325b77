import WebTsToolkit.AccessRouter.FilterIntersection
import WebTsToolkit.AccessRouter.CorrelatedTrace
import WebTsToolkit.AccessRouter.OutputStage
import WebTsToolkit.AccessRouter.InputFrame
import WebTsToolkit.AccessRouter.HookGateSafety
import WebTsToolkit.RequestAttestation.ReplaySafety
import WebTsToolkit.RequestAttestation.StoreAgreement
import WebTsToolkit.OidcVaultMemory.RevocationHandles
import WebTsToolkit.OidcVaultMemory.Rotation
import WebTsToolkit.OidcVaultMemory.ConsumedOnce
import WebTsToolkit.JsonFrame.Packing
import WebTsToolkit.JsonFrame.TableRoundTrip
import WebTsToolkit.MongooseRxdb.FilterPreservation
import WebTsToolkit.OidcVaultMemory.DpopReplayOnce
import WebTsToolkit.AccessRouter.TraceableAuthority
import WebTsToolkit.MongooseRxdb.ConnectionOwnership
import WebTsToolkit.AccessRouter.PublicationContract
import WebTsToolkit.OidcVault.AuthenticatorContract
import WebTsToolkit.OidcVaultDpopClient.AutoRefreshContract
import WebTsToolkit.RequestAttestation.SignerClientContract
import WebTsToolkit.MongooseRxdb.BulkInsertContract
import WebTsToolkit.ExpressOidcVault.DpopJson
import WebTsToolkit.OidcVaultDpopClient.AuthChallengeExact
import WebTsToolkit.JsonFrame.JsonGraphContract
import WebTsToolkit.AccessRouterClient.SubQuery
import WebTsToolkit.AssetInliner.SrcsetExact
import WebTsToolkit.AccessRouterReact.AutoQueryContract
import WebTsToolkit.AssetInliner.InlineFilesContract
import WebTsToolkit.AccessRouter.RequestComplexityExact
import WebTsToolkit.AccessRouter.ConcurrencyMapContract
import WebTsToolkit.PdfReader.PageResourcesContract
import WebTsToolkit.AccessRouter.CatalogPreparation
import WebTsToolkit.Utils.DeepEqualExact
import WebTsToolkit.AccessRouter.MaskPaths
import WebTsToolkit.AccessRouter.MovePaths
import WebTsToolkit.PdfReader.LoadContract
import WebTsToolkit.AccessRouter.PersistedProjection
import WebTsToolkit.Utils.OrderByExact
import WebTsToolkit.Moo.CascadeContract
import WebTsToolkit.ExpressResponseHandler.ResponseOwnerContract
import WebTsToolkit.RequestAttestation.MacInput
import WebTsToolkit.MessageService.CreationProgress
import WebTsToolkit.MessageService.PaymentSessions
import WebTsToolkit.RequestAttestation.VerifyCodec
import WebTsToolkit.Utils.PathAgreement
