import TeechatOpenapi.Attest.Rollback
import TeechatOpenapi.Attest.Retirement
import TeechatOpenapi.Core.AppRuns
import TeechatOpenapi.Core.AuthzBytes
import TeechatOpenapi.Core.Decoys
import TeechatOpenapi.Core.Ephemeral
import TeechatOpenapi.Core.KeyFormat
import TeechatOpenapi.Core.MaintenanceSelect
import TeechatOpenapi.Core.SseUsage
import TeechatOpenapi.Cvm.Agreement
import TeechatOpenapi.Cvm.EventFraming
import TeechatOpenapi.Cvm.GatewayApi
import TeechatOpenapi.Cvm.LaunchDisplay
import TeechatOpenapi.Cvm.ModelList
import TeechatOpenapi.Cvm.ReportBytes
import TeechatOpenapi.Cvm.Startup
import TeechatOpenapi.Cvm.ToolCalls
import TeechatOpenapi.Cvm.UsageTotal
import TeechatOpenapi.Cvm.CeremonyCheck
import TeechatOpenapi.Helper.HttpsRelay
import TeechatOpenapi.Http.Framing
import TeechatOpenapi.Http.Shed
import TeechatOpenapi.Http.Connection
import TeechatOpenapi.Sgx.EdgeEnv
import TeechatOpenapi.Sgx.GatewayDispatch
import TeechatOpenapi.Sgx.Truncation
import TeechatOpenapi.Sgx.CeremonyPair
import TeechatOpenapi.Platform.EngineBinding
import TeechatOpenapi.Platform.EpochBinding
import TeechatOpenapi.Platform.IdentityBinding
import TeechatOpenapi.Platform.SealedThreads
import TeechatOpenapi.Platform.TlsKeyPolicy
import TeechatOpenapi.Platform.UsageBinding
import TeechatOpenapi.Timestamps
