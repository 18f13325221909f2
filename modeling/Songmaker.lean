import Songmaker.Covers.CoverPublishing
import Songmaker.Covers.CoverServed
import Songmaker.Cowriter.FoldedOnce
import Songmaker.Editor.DraftKept
import Songmaker.Editor.LatestKnown
import Songmaker.Editor.RecipeMarks
import Songmaker.Editor.RenderedAsShown
import Songmaker.Engine.KnobsReadBack
import Songmaker.Jobs.AdmissionLimits
import Songmaker.Jobs.DownloadExclusive
import Songmaker.Jobs.GenerationOutcome
import Songmaker.Jobs.NoStrayFiles
import Songmaker.Jobs.TrackedOnce
import Songmaker.Layers.LayersLeaveOnce
import Songmaker.Library.AlbumListSettled
import Songmaker.Library.CascadeRestored
import Songmaker.Library.LibraryPagination
import Songmaker.Library.RankingWhole
import Songmaker.Library.WriteListFresh
import Songmaker.Lora.HoldKept
import Songmaker.Lora.LoraCrashConsistency
import Songmaker.Lora.RetrainingAdopts
import Songmaker.Lora.SamplesInOrder
import Songmaker.Lyrics.LineDiff
import Songmaker.Lyrics.LitIntervals
import Songmaker.Middleware.GzipTransparency
import Songmaker.Player.DeckManifest
import Songmaker.Player.DeliveredOnce
import Songmaker.Player.PauseLastWord
import Songmaker.Player.QueueRound
import Songmaker.Playlists.DetailCurrent
import Songmaker.Playlists.PlaylistOrder
import Songmaker.QueueStreams.PoolAndSegments
import Songmaker.QueueStreams.SnapshotReuse
import Songmaker.QueueStreams.StreamFilesKept
import Songmaker.Redis.LeaseLimits
import Songmaker.References.StampReconciliation
import Songmaker.ResourceEvents.Completeness
import Songmaker.Scoring.BackfillServes
import Songmaker.Scoring.ExtraSinging
import Songmaker.Scoring.LastSuccessful
import Songmaker.Scoring.ResponsePairing
import Songmaker.Sharing.PublicAudio
import Songmaker.Sharing.SharePlays
import Songmaker.Songs.SlugsFollow
import Songmaker.Takes.SourceWavsWhole
import Songmaker.Takes.SpliceKept
import Songmaker.Takes.TakeFlags
import Songmaker.Takes.TakeHandedOver
import Songmaker.Worker.GpuHoldAdmission
import Songmaker.Worker.ModelCacheAdmission
import Songmaker.Worker.ModelCacheUse
import Songmaker.Worker.ModelRegistry
import Songmaker.Worker.OwnVoice
import Songmaker.Worker.TaskEventStream
import Songmaker.Worker.TaskStoreStreams
import Songmaker.Worker.TrainingCleanedUp
