import UInventario.Inventory.PolicyIndependence
import UInventario.Pos.ClosureFinality
import UInventario.Pos.RefundCaps
import UInventario.Pos.PaymentCash
import UInventario.Pos.EarnReversal
import UInventario.Pos.FingerprintCoverage
import UInventario.Procurement.Progress
import UInventario.Procurement.SupplierCredit
import UInventario.OfflineSync.ExactlyOnce
import UInventario.OfflineSync.ConcurrentWrites
import UInventario.Commerce.DeliveryBookkeeping
import UInventario.Pos.TerminalCaptures
import UInventario.Commerce.IntakeRecovery
import UInventario.Operations.RequestFingerprints
import UInventario.Orders.OverdueReservations
import UInventario.Integrations.ErpExportRuns
import UInventario.Commerce.CatalogRuns
import UInventario.Fiscal.VoidedSales
import UInventario.Notifications.DeliveryRuns
import UInventario.Integrations.WhatsappRuns
import UInventario.Integrations.PspPaymentSafety
import UInventario.Integrations.AccountingReversals
import UInventario.Customers.Retention
import UInventario.Notifications.NotifiedOnce
import UInventario.Pos.PromotionLimits
import UInventario.Pos.ReturnedMoney
import UInventario.Pos.ReturnedStock
import UInventario.Inventory.ValueTolerance
import UInventario.Operations.TransferValue
import UInventario.Inventory.FifoJournal
import UInventario.Auth.SessionSafety
import UInventario.Operations.KitAssembly
import UInventario.Inventory.LayerBounds
import UInventario.Operations.CountVariance
import UInventario.Orders.CarrierTracking
import UInventario.Foundations.DecimalGrammar
import UInventario.Foundations.Quanta
import UInventario.Inventory.QuantityTexts
import UInventario.Reports.DemandForecast
import UInventario.Reports.StockExport
import UInventario.Fiscal.DocumentMails
import UInventario.Pos.CreditStatement
import UInventario.Integrations.PspWebhooks
import UInventario.Catalog.ImportFiles
import UInventario.Reports.ExportLifecycle
import UInventario.Operations.ReasonTexts
import UInventario.Procurement.SupplierPrices
import UInventario.Catalog.Retirement
import UInventario.Reports.MovementExport
import UInventario.Operations.BlindCounts
