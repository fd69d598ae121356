/-
  Content types guessed from file name extensions.

  The extension is the text after the last `.` of the file name, unless that `.` is the
  name's first character; it is compared without regard to case.  Unknown extensions have no
  guess.
-/

namespace Storefront.Media

/-- Known extensions, in lowercase and in alphabetical order, and the content type each
suggests. -/
def extensionTypes : List (String × String) :=
  [
   ("323", "text/h323"), ("3g2", "video/3gpp2"), ("3gp", "video/3gpp"), ("3gp2", "video/3gpp2"),
   ("3gpp", "video/3gpp"), ("7z", "application/x-7z-compressed"), ("aa", "audio/audible"),
   ("aac", "audio/aac"), ("aaf", "application/octet-stream"), ("aax", "audio/vnd.audible.aax"),
   ("ac3", "audio/ac3"), ("aca", "application/octet-stream"),
   ("accda", "application/msaccess.addin"), ("accdb", "application/msaccess"),
   ("accdc", "application/msaccess.cab"), ("accde", "application/msaccess"),
   ("accdr", "application/msaccess.runtime"), ("accdt", "application/msaccess"),
   ("accdw", "application/msaccess.webextension"), ("accft", "application/msaccess.ftemplate"),
   ("acx", "application/internet-property-stream"), ("addin", "text/xml"),
   ("ade", "application/msaccess"), ("adobebridge", "application/x-bridge-url"),
   ("adp", "application/msaccess"), ("adt", "audio/vnd.dlna.adts"), ("adts", "audio/aac"),
   ("afm", "application/octet-stream"), ("ai", "application/postscript"), ("aif", "audio/aiff"),
   ("aifc", "audio/aiff"), ("aiff", "audio/aiff"),
   ("air", "application/vnd.adobe.air-application-installer-package+zip"),
   ("amc", "application/mpeg"), ("amr", "audio/amr"), ("anx", "application/annodex"),
   ("apk", "application/vnd.android.package-archive"), ("apkg", "application/octet-stream"),
   ("apng", "image/apng"), ("application", "application/x-ms-application"), ("art", "image/x-jg"),
   ("asa", "application/xml"), ("asax", "application/xml"), ("ascx", "application/xml"),
   ("asd", "application/octet-stream"), ("asf", "video/x-ms-asf"), ("ashx", "application/xml"),
   ("asi", "application/octet-stream"), ("asm", "text/plain"), ("asmx", "application/xml"),
   ("aspx", "application/xml"), ("asr", "video/x-ms-asf"), ("asx", "video/x-ms-asf"),
   ("atom", "application/atom+xml"), ("au", "audio/basic"), ("avci", "image/avci"),
   ("avcs", "image/avcs"), ("avi", "video/x-msvideo"), ("avif", "image/avif"),
   ("avifs", "image/avif-sequence"), ("awb", "audio/amr-wb"), ("axa", "audio/annodex"),
   ("axs", "application/olescript"), ("axv", "video/annodex"),
   ("azw", "application/vnd.amazon.ebook"), ("bas", "text/plain"),
   ("bat", "application/x-msdownload"), ("bcpio", "application/x-bcpio"),
   ("bin", "application/octet-stream"), ("bmp", "image/bmp"), ("bpk", "application/octet-stream"),
   ("bz", "application/x-bzip"), ("bz2", "application/x-bzip2"), ("c", "text/plain"),
   ("cab", "application/octet-stream"), ("caf", "audio/x-caf"),
   ("calx", "application/vnd.ms-office.calx"), ("cat", "application/vnd.ms-pki.seccat"),
   ("cb7", "application/x-cbr"), ("cba", "application/x-cbr"), ("cbr", "application/x-cbr"),
   ("cbt", "application/x-cbr"), ("cbz", "application/x-cbr"), ("cc", "text/plain"),
   ("cd", "text/plain"), ("cdda", "audio/aiff"), ("cdf", "application/x-cdf"),
   ("cer", "application/x-x509-ca-cert"), ("cfg", "text/plain"),
   ("chm", "application/octet-stream"), ("cjs", "application/node"),
   ("class", "application/x-java-applet"), ("clp", "application/x-msclip"), ("cmd", "text/plain"),
   ("cmx", "image/x-cmx"), ("cnf", "text/plain"), ("cod", "image/cis-cod"),
   ("com", "application/x-msdownload"), ("conf", "text/plain"), ("config", "application/xml"),
   ("contact", "text/x-ms-contact"), ("coverage", "application/xml"),
   ("cpio", "application/x-cpio"), ("cpp", "text/plain"), ("cr2", "image/x-canon-cr2"),
   ("crd", "application/x-mscardfile"), ("crl", "application/pkix-crl"),
   ("crt", "application/x-x509-ca-cert"), ("crx", "application/x-chrome-extension"),
   ("cs", "text/plain"), ("csdproj", "text/plain"), ("csh", "application/x-csh"),
   ("csl", "application/vnd.citationstyles.style+xml"), ("csproj", "text/plain"),
   ("css", "text/css"), ("csv", "text/csv"), ("cur", "application/octet-stream"),
   ("cxx", "text/plain"), ("czx", "application/x-czx"), ("dat", "application/octet-stream"),
   ("datasource", "application/xml"), ("dbproj", "text/plain"), ("dcr", "application/x-director"),
   ("deb", "application/x-debian-package"), ("def", "text/plain"),
   ("deploy", "application/octet-stream"), ("der", "application/x-x509-ca-cert"),
   ("dgml", "application/xml"), ("dib", "image/bmp"), ("dic", "text/x-c"), ("dif", "video/x-dv"),
   ("dir", "application/x-director"), ("disco", "text/xml"), ("dist", "application/octet-stream"),
   ("distz", "application/octet-stream"), ("divx", "video/divx"), ("djv", "image/vnd.djvu"),
   ("djvu", "image/vnd.djvu"), ("dll", "application/x-msdownload"), ("dlm", "text/dlm"),
   ("dmg", "application/x-apple-diskimage"), ("dms", "application/octet-stream"),
   ("dng", "image/x-adobe-dng"), ("doc", "application/msword"),
   ("docm", "application/vnd.ms-word.document.macroEnabled.12"),
   ("docx", "application/vnd.openxmlformats-officedocument.wordprocessingml.document"),
   ("dot", "application/msword"), ("dotm", "application/vnd.ms-word.template.macroEnabled.12"),
   ("dotx", "application/vnd.openxmlformats-officedocument.wordprocessingml.template"),
   ("dsp", "application/octet-stream"), ("dsw", "text/plain"), ("dtd", "text/xml"),
   ("dtsconfig", "text/xml"), ("dump", "application/octet-stream"), ("dv", "video/x-dv"),
   ("dvi", "application/x-dvi"), ("dwf", "drawing/x-dwf"), ("dwg", "application/acad"),
   ("dwp", "application/octet-stream"), ("dxf", "application/x-dxf"),
   ("dxr", "application/x-director"), ("elc", "application/octet-stream"), ("emf", "image/emf"),
   ("eml", "message/rfc822"), ("emz", "application/octet-stream"),
   ("eot", "application/vnd.ms-fontobject"), ("eps", "application/postscript"),
   ("epub", "application/epub+zip"), ("es", "application/ecmascript"), ("etl", "application/etl"),
   ("etx", "text/x-setext"), ("evy", "application/envoy"), ("exe", "application/octet-stream"),
   ("f", "text/x-fortran"), ("f4v", "video/mp4"), ("f77", "text/x-fortran"),
   ("f90", "text/x-fortran"), ("fdf", "application/vnd.fdf"), ("fif", "application/fractals"),
   ("filters", "application/xml"), ("fla", "application/octet-stream"), ("flac", "audio/flac"),
   ("fli", "video/x-fli"), ("flr", "x-world/x-vrml"), ("flv", "video/x-flv"),
   ("for", "text/x-fortran"), ("fsscript", "application/fsharp-script"),
   ("fsx", "application/fsharp-script"), ("generictest", "application/xml"),
   ("geojson", "application/geo+json"), ("gif", "image/gif"), ("glb", "model/gltf-binary"),
   ("gltf", "model/gltf+json"), ("gpx", "application/gpx+xml"), ("group", "text/x-ms-group"),
   ("gsm", "audio/x-gsm"), ("gtar", "application/x-gtar"), ("gz", "application/gzip"),
   ("h", "text/plain"), ("h261", "video/h261"), ("h263", "video/h263"), ("h264", "video/h264"),
   ("hdf", "application/x-hdf"), ("hdml", "text/x-hdml"), ("heic", "image/heic"),
   ("heics", "image/heic-sequence"), ("heif", "image/heif"), ("heifs", "image/heif-sequence"),
   ("hh", "text/x-c"), ("hhc", "application/x-oleobject"), ("hhk", "application/octet-stream"),
   ("hhp", "application/octet-stream"), ("hlp", "application/winhlp"), ("hpp", "text/plain"),
   ("hqx", "application/mac-binhex40"), ("hta", "application/hta"), ("htc", "text/x-component"),
   ("htm", "text/html"), ("html", "text/html"), ("htt", "text/webviewhtml"),
   ("hxa", "application/xml"), ("hxc", "application/xml"), ("hxd", "application/octet-stream"),
   ("hxe", "application/xml"), ("hxf", "application/xml"), ("hxh", "application/octet-stream"),
   ("hxi", "application/octet-stream"), ("hxk", "application/xml"),
   ("hxq", "application/octet-stream"), ("hxr", "application/octet-stream"),
   ("hxs", "application/octet-stream"), ("hxt", "text/html"), ("hxv", "application/xml"),
   ("hxw", "application/octet-stream"), ("hxx", "text/plain"), ("i", "text/plain"),
   ("ical", "text/calendar"), ("icalendar", "text/calendar"), ("ico", "image/x-icon"),
   ("ics", "text/calendar"), ("idl", "text/plain"), ("ief", "image/ief"),
   ("ifb", "text/calendar"), ("iii", "application/x-iphone"), ("in", "text/plain"),
   ("inc", "text/plain"), ("inf", "application/octet-stream"), ("ini", "text/plain"),
   ("inl", "text/plain"), ("ins", "application/x-internet-signup"),
   ("ipa", "application/x-itunes-ipa"), ("ipg", "application/x-itunes-ipg"),
   ("ipproj", "text/plain"), ("ipsw", "application/x-itunes-ipsw"), ("iqy", "text/x-ms-iqy"),
   ("isma", "application/octet-stream"), ("ismv", "application/octet-stream"),
   ("iso", "application/x-iso9660-image"), ("isp", "application/x-internet-signup"),
   ("ite", "application/x-itunes-ite"), ("itlp", "application/x-itunes-itlp"),
   ("itms", "application/x-itunes-itms"), ("itpc", "application/x-itunes-itpc"),
   ("ivf", "video/x-ivf"), ("jar", "application/java-archive"),
   ("java", "application/octet-stream"), ("jck", "application/liquidmotion"),
   ("jcz", "application/liquidmotion"), ("jfif", "image/pjpeg"),
   ("jnlp", "application/x-java-jnlp-file"), ("jp2", "image/jp2"),
   ("jpb", "application/octet-stream"), ("jpe", "image/jpeg"), ("jpeg", "image/jpeg"),
   ("jpg", "image/jpeg"), ("jpgv", "video/jpeg"), ("jpm", "image/jpm"), ("jpx", "image/jpx"),
   ("js", "text/javascript"), ("json", "application/json"), ("json5", "application/json5"),
   ("jsonld", "application/ld+json"), ("jsx", "text/jscript"), ("jsxbin", "text/plain"),
   ("jxl", "image/jxl"), ("jxr", "image/jxr"), ("kar", "audio/midi"),
   ("key", "application/vnd.apple.keynote"), ("ktx", "image/ktx"),
   ("latex", "application/x-latex"), ("less", "text/less"),
   ("library-ms", "application/windows-library+xml"), ("list", "text/plain"),
   ("lit", "application/x-ms-reader"), ("loadtest", "application/xml"), ("log", "text/plain"),
   ("lpk", "application/octet-stream"), ("lrf", "application/octet-stream"),
   ("lsf", "video/x-la-asf"), ("lst", "text/plain"), ("lsx", "video/x-la-asf"),
   ("lzh", "application/octet-stream"), ("m13", "application/x-msmediaview"),
   ("m14", "application/x-msmediaview"), ("m1v", "video/mpeg"),
   ("m2t", "video/vnd.dlna.mpeg-tts"), ("m2ts", "video/vnd.dlna.mpeg-tts"), ("m2v", "video/mpeg"),
   ("m3u", "audio/x-mpegurl"), ("m3u8", "audio/x-mpegurl"), ("m4a", "audio/m4a"),
   ("m4b", "audio/m4b"), ("m4p", "audio/m4p"), ("m4r", "audio/x-m4r"),
   ("m4u", "video/vnd.mpegurl"), ("m4v", "video/x-m4v"), ("mac", "image/x-macpaint"),
   ("mak", "text/plain"), ("man", "application/x-troff-man"),
   ("manifest", "application/x-ms-manifest"), ("map", "text/plain"),
   ("mar", "application/octet-stream"), ("markdown", "text/markdown"),
   ("master", "application/xml"), ("mbox", "application/mbox"), ("md", "text/markdown"),
   ("mda", "application/msaccess"), ("mdb", "application/x-msaccess"),
   ("mde", "application/msaccess"), ("mdp", "application/octet-stream"),
   ("me", "application/x-troff-me"), ("mfp", "application/x-shockwave-flash"),
   ("mht", "message/rfc822"), ("mhtml", "message/rfc822"), ("mid", "audio/mid"),
   ("midi", "audio/mid"), ("mix", "application/octet-stream"), ("mjs", "application/javascript"),
   ("mk", "text/plain"), ("mk3d", "video/x-matroska-3d"), ("mka", "audio/x-matroska"),
   ("mks", "video/x-matroska"), ("mkv", "video/x-matroska"), ("mmf", "application/x-smaf"),
   ("mng", "video/x-mng"), ("mno", "text/xml"), ("mny", "application/x-msmoney"),
   ("mobi", "application/x-mobipocket-ebook"), ("mod", "video/mpeg"), ("mov", "video/quicktime"),
   ("movie", "video/x-sgi-movie"), ("mp2", "video/mpeg"), ("mp2v", "video/mpeg"),
   ("mp3", "audio/mpeg"), ("mp4", "video/mp4"), ("mp4a", "audio/mp4"), ("mp4v", "video/mp4"),
   ("mpa", "video/mpeg"), ("mpe", "video/mpeg"), ("mpeg", "video/mpeg"),
   ("mpf", "application/vnd.ms-mediapackage"), ("mpg", "video/mpeg"), ("mpg4", "video/mp4"),
   ("mpga", "audio/mpeg"), ("mpp", "application/vnd.ms-project"), ("mpv2", "video/mpeg"),
   ("mqv", "video/quicktime"), ("ms", "application/x-troff-ms"),
   ("msg", "application/vnd.ms-outlook"), ("msi", "application/octet-stream"),
   ("mso", "application/octet-stream"), ("mts", "video/vnd.dlna.mpeg-tts"),
   ("mtx", "application/xml"), ("mvb", "application/x-msmediaview"),
   ("mvc", "application/x-miva-compiled"), ("mxf", "application/mxf"),
   ("mxp", "application/x-mmxp"), ("mxu", "video/vnd.mpegurl"), ("nc", "application/x-netcdf"),
   ("nef", "image/x-nikon-nef"), ("nfo", "text/x-nfo"), ("nsc", "video/x-ms-asf"),
   ("nws", "message/rfc822"), ("obj", "model/obj"), ("ocx", "application/octet-stream"),
   ("oda", "application/oda"), ("odb", "application/vnd.oasis.opendocument.database"),
   ("odc", "application/vnd.oasis.opendocument.chart"),
   ("odf", "application/vnd.oasis.opendocument.formula"),
   ("odg", "application/vnd.oasis.opendocument.graphics"), ("odh", "text/plain"),
   ("odi", "application/vnd.oasis.opendocument.image"), ("odl", "text/plain"),
   ("odm", "application/vnd.oasis.opendocument.text-master"),
   ("odp", "application/vnd.oasis.opendocument.presentation"),
   ("ods", "application/vnd.oasis.opendocument.spreadsheet"),
   ("odt", "application/vnd.oasis.opendocument.text"), ("oga", "audio/ogg"), ("ogg", "audio/ogg"),
   ("ogv", "video/ogg"), ("ogx", "application/ogg"), ("one", "application/onenote"),
   ("onea", "application/onenote"), ("onepkg", "application/onenote"),
   ("onetmp", "application/onenote"), ("onetoc", "application/onenote"),
   ("onetoc2", "application/onenote"), ("opml", "text/x-opml"), ("opus", "audio/ogg"),
   ("orderedtest", "application/xml"), ("orf", "image/x-olympus-orf"),
   ("osdx", "application/opensearchdescription+xml"), ("otf", "font/otf"),
   ("otg", "application/vnd.oasis.opendocument.graphics-template"),
   ("oth", "application/vnd.oasis.opendocument.text-web"),
   ("otp", "application/vnd.oasis.opendocument.presentation-template"),
   ("ots", "application/vnd.oasis.opendocument.spreadsheet-template"),
   ("ott", "application/vnd.oasis.opendocument.text-template"), ("oxps", "application/oxps"),
   ("oxt", "application/vnd.openofficeorg.extension"), ("p", "text/x-pascal"),
   ("p10", "application/pkcs10"), ("p12", "application/x-pkcs12"),
   ("p7b", "application/x-pkcs7-certificates"), ("p7c", "application/pkcs7-mime"),
   ("p7m", "application/pkcs7-mime"), ("p7r", "application/x-pkcs7-certreqresp"),
   ("p7s", "application/pkcs7-signature"), ("pas", "text/x-pascal"),
   ("pbm", "image/x-portable-bitmap"), ("pcast", "application/x-podcast"), ("pct", "image/pict"),
   ("pcx", "application/octet-stream"), ("pcz", "application/octet-stream"),
   ("pdf", "application/pdf"), ("pfb", "application/octet-stream"),
   ("pfm", "application/octet-stream"), ("pfx", "application/x-pkcs12"),
   ("pgm", "image/x-portable-graymap"), ("php", "application/x-httpd-php"), ("pic", "image/pict"),
   ("pict", "image/pict"), ("pkg", "application/octet-stream"), ("pkgdef", "text/plain"),
   ("pkgundef", "text/plain"), ("pko", "application/vnd.ms-pki.pko"), ("pls", "audio/scpls"),
   ("pma", "application/x-perfmon"), ("pmc", "application/x-perfmon"),
   ("pml", "application/x-perfmon"), ("pmr", "application/x-perfmon"),
   ("pmw", "application/x-perfmon"), ("png", "image/png"), ("pnm", "image/x-portable-anymap"),
   ("pnt", "image/x-macpaint"), ("pntg", "image/x-macpaint"), ("pnz", "image/png"),
   ("pot", "application/vnd.ms-powerpoint"),
   ("potm", "application/vnd.ms-powerpoint.template.macroEnabled.12"),
   ("potx", "application/vnd.openxmlformats-officedocument.presentationml.template"),
   ("ppa", "application/vnd.ms-powerpoint"),
   ("ppam", "application/vnd.ms-powerpoint.addin.macroEnabled.12"),
   ("ppm", "image/x-portable-pixmap"), ("pps", "application/vnd.ms-powerpoint"),
   ("ppsm", "application/vnd.ms-powerpoint.slideshow.macroEnabled.12"),
   ("ppsx", "application/vnd.openxmlformats-officedocument.presentationml.slideshow"),
   ("ppt", "application/vnd.ms-powerpoint"),
   ("pptm", "application/vnd.ms-powerpoint.presentation.macroEnabled.12"),
   ("pptx", "application/vnd.openxmlformats-officedocument.presentationml.presentation"),
   ("prf", "application/pics-rules"), ("prm", "application/octet-stream"),
   ("prx", "application/octet-stream"), ("ps", "application/postscript"),
   ("psc1", "application/PowerShell"), ("psd", "application/octet-stream"),
   ("psess", "application/xml"), ("psm", "application/octet-stream"),
   ("psp", "application/octet-stream"), ("pst", "application/vnd.ms-outlook"),
   ("pub", "application/x-mspublisher"), ("pwz", "application/vnd.ms-powerpoint"),
   ("py", "text/plain"), ("qht", "text/x-html-insertion"), ("qhtm", "text/x-html-insertion"),
   ("qt", "video/quicktime"), ("qti", "image/x-quicktime"), ("qtif", "image/x-quicktime"),
   ("qtl", "application/x-quicktimeplayer"), ("qxd", "application/octet-stream"),
   ("ra", "audio/x-pn-realaudio"), ("raf", "image/x-fuji-raf"), ("ram", "audio/x-pn-realaudio"),
   ("rar", "application/x-rar-compressed"), ("ras", "image/x-cmu-raster"),
   ("rat", "application/rat-file"), ("rc", "text/plain"), ("rc2", "text/plain"),
   ("rct", "text/plain"), ("rdlc", "application/xml"), ("reg", "text/plain"),
   ("resx", "application/xml"), ("rf", "image/vnd.rn-realflash"), ("rgb", "image/x-rgb"),
   ("rgs", "text/plain"), ("rm", "application/vnd.rn-realmedia"), ("rmi", "audio/mid"),
   ("rmp", "application/vnd.rn-rn_music_package"), ("rmvb", "application/vnd.rn-realmedia-vbr"),
   ("roff", "application/x-troff"), ("rpm", "audio/x-pn-realaudio-plugin"),
   ("rqy", "text/x-ms-rqy"), ("rs", "text/x-rust"), ("rss", "application/rss+xml"),
   ("rtf", "application/rtf"), ("rtx", "text/richtext"), ("ruleset", "application/xml"),
   ("rvt", "application/octet-stream"), ("s", "text/plain"),
   ("safariextz", "application/x-safari-safariextz"), ("sass", "text/x-sass"),
   ("scd", "application/x-msschedule"), ("scr", "text/plain"), ("scss", "text/x-scss"),
   ("sct", "text/scriptlet"), ("sd2", "audio/x-sd2"), ("sdp", "application/sdp"),
   ("sea", "application/octet-stream"),
   ("searchconnector-ms", "application/windows-search-connector+xml"),
   ("setpay", "application/set-payment-initiation"),
   ("setreg", "application/set-registration-initiation"), ("settings", "application/xml"),
   ("sfv", "text/x-sfv"), ("sgimb", "application/x-sgimb"), ("sgml", "text/sgml"),
   ("sh", "application/x-sh"), ("shar", "application/x-shar"), ("shtml", "text/html"),
   ("sid", "image/x-mrsid-image"), ("sit", "application/x-stuffit"),
   ("sitemap", "application/xml"), ("skin", "application/xml"), ("skp", "application/x-koan"),
   ("sldm", "application/vnd.ms-powerpoint.slide.macroEnabled.12"),
   ("sldx", "application/vnd.openxmlformats-officedocument.presentationml.slide"),
   ("slk", "application/vnd.ms-excel"), ("sln", "text/plain"),
   ("slupkg-ms", "application/x-ms-license"), ("smd", "audio/x-smd"),
   ("smi", "application/octet-stream"), ("smv", "video/x-smv"), ("smx", "audio/x-smd"),
   ("smz", "audio/x-smd"), ("snd", "audio/basic"), ("snippet", "application/xml"),
   ("snp", "application/octet-stream"), ("so", "application/octet-stream"), ("sol", "text/plain"),
   ("sor", "text/plain"), ("spc", "application/x-pkcs7-certificates"),
   ("spl", "application/futuresplash"), ("spx", "audio/ogg"),
   ("src", "application/x-wais-source"), ("srf", "text/plain"),
   ("ssisdeploymentmanifest", "text/xml"), ("ssm", "application/streamingmedia"),
   ("sst", "application/vnd.ms-pki.certstore"), ("stl", "application/vnd.ms-pki.stl"),
   ("sv4cpio", "application/x-sv4cpio"), ("sv4crc", "application/x-sv4crc"),
   ("svc", "application/xml"), ("svg", "image/svg+xml"), ("svgz", "image/svg+xml"),
   ("swf", "application/x-shockwave-flash"), ("t", "application/x-troff"),
   ("tar", "application/x-tar"), ("tcl", "application/x-tcl"),
   ("testrunconfig", "application/xml"), ("testsettings", "application/xml"),
   ("tex", "application/x-tex"), ("texi", "application/x-texinfo"),
   ("texinfo", "application/x-texinfo"), ("text", "text/plain"), ("tga", "image/x-tga"),
   ("tgz", "application/x-compressed"), ("thmx", "application/vnd.ms-officetheme"),
   ("thn", "application/octet-stream"), ("tif", "image/tiff"), ("tiff", "image/tiff"),
   ("tlh", "text/plain"), ("tli", "text/plain"), ("toc", "application/octet-stream"),
   ("toml", "text/x-toml"), ("torrent", "application/x-bittorrent"),
   ("tr", "application/x-troff"), ("trm", "application/x-msterminal"), ("trx", "application/xml"),
   ("ts", "video/vnd.dlna.mpeg-tts"), ("tsv", "text/tab-separated-values"),
   ("ttc", "font/collection"), ("ttf", "font/ttf"), ("tts", "video/vnd.dlna.mpeg-tts"),
   ("txt", "text/plain"), ("u32", "application/octet-stream"),
   ("udeb", "application/x-debian-package"), ("uls", "text/iuls"), ("user", "text/plain"),
   ("ustar", "application/x-ustar"), ("uu", "text/x-uuencode"), ("vb", "text/plain"),
   ("vbdproj", "text/plain"), ("vbk", "video/mpeg"), ("vbproj", "text/plain"),
   ("vbs", "text/vbscript"), ("vcard", "text/vcard"), ("vcf", "text/x-vcard"),
   ("vcproj", "application/xml"), ("vcs", "text/plain"), ("vcxproj", "application/xml"),
   ("vddproj", "text/plain"), ("vdp", "text/plain"), ("vdproj", "text/plain"),
   ("vdx", "application/vnd.ms-visio.viewer"), ("vml", "text/xml"), ("vob", "video/x-ms-vob"),
   ("vscontent", "application/xml"), ("vsct", "text/xml"), ("vsd", "application/vnd.visio"),
   ("vsi", "application/ms-vsi"), ("vsix", "application/vsix"), ("vsixlangpack", "text/xml"),
   ("vsixmanifest", "text/xml"), ("vsmdi", "application/xml"), ("vspscc", "text/plain"),
   ("vss", "application/vnd.visio"), ("vsscc", "text/plain"), ("vssettings", "text/xml"),
   ("vssscc", "text/plain"), ("vst", "application/vnd.visio"), ("vstemplate", "text/xml"),
   ("vsto", "application/x-ms-vsto"), ("vsw", "application/vnd.visio"),
   ("vsx", "application/vnd.visio"), ("vtt", "text/vtt"), ("vtx", "application/vnd.visio"),
   ("wasm", "application/wasm"), ("wav", "audio/wav"), ("wave", "audio/wav"),
   ("wax", "audio/x-ms-wax"), ("wbk", "application/msword"), ("wbmp", "image/vnd.wap.wbmp"),
   ("wcm", "application/vnd.ms-works"), ("wdb", "application/vnd.ms-works"),
   ("wdp", "image/vnd.ms-photo"), ("weba", "audio/webm"),
   ("webarchive", "application/x-safari-webarchive"), ("webm", "video/webm"),
   ("webmanifest", "application/manifest+json"), ("webp", "image/webp"),
   ("webtest", "application/xml"), ("wiq", "application/xml"), ("wiz", "application/msword"),
   ("wks", "application/vnd.ms-works"), ("wlmp", "application/wlmoviemaker"),
   ("wlpginstall", "application/x-wlpg-detect"), ("wlpginstall3", "application/x-wlpg3-detect"),
   ("wm", "video/x-ms-wm"), ("wma", "audio/x-ms-wma"), ("wmd", "application/x-ms-wmd"),
   ("wmf", "application/x-msmetafile"), ("wml", "text/vnd.wap.wml"),
   ("wmlc", "application/vnd.wap.wmlc"), ("wmls", "text/vnd.wap.wmlscript"),
   ("wmlsc", "application/vnd.wap.wmlscriptc"), ("wmp", "video/x-ms-wmp"),
   ("wmv", "video/x-ms-wmv"), ("wmx", "video/x-ms-wmx"), ("wmz", "application/x-ms-wmz"),
   ("woff", "font/woff"), ("woff2", "font/woff2"), ("wpl", "application/vnd.ms-wpl"),
   ("wps", "application/vnd.ms-works"), ("wri", "application/x-mswrite"),
   ("wrl", "x-world/x-vrml"), ("wrz", "x-world/x-vrml"), ("wsc", "text/scriptlet"),
   ("wsdl", "text/xml"), ("wvx", "video/x-ms-wvx"), ("x", "application/directx"),
   ("xaf", "x-world/x-vrml"), ("xaml", "application/xaml+xml"),
   ("xap", "application/x-silverlight-app"), ("xbap", "application/x-ms-xbap"),
   ("xbm", "image/x-xbitmap"), ("xdr", "text/plain"), ("xht", "application/xhtml+xml"),
   ("xhtml", "application/xhtml+xml"), ("xla", "application/vnd.ms-excel"),
   ("xlam", "application/vnd.ms-excel.addin.macroEnabled.12"),
   ("xlc", "application/vnd.ms-excel"), ("xld", "application/vnd.ms-excel"),
   ("xlk", "application/vnd.ms-excel"), ("xll", "application/vnd.ms-excel"),
   ("xlm", "application/vnd.ms-excel"), ("xls", "application/vnd.ms-excel"),
   ("xlsb", "application/vnd.ms-excel.sheet.binary.macroEnabled.12"),
   ("xlsm", "application/vnd.ms-excel.sheet.macroEnabled.12"),
   ("xlsx", "application/vnd.openxmlformats-officedocument.spreadsheetml.sheet"),
   ("xlt", "application/vnd.ms-excel"),
   ("xltm", "application/vnd.ms-excel.template.macroEnabled.12"),
   ("xltx", "application/vnd.openxmlformats-officedocument.spreadsheetml.template"),
   ("xlw", "application/vnd.ms-excel"), ("xml", "text/xml"), ("xmp", "application/octet-stream"),
   ("xmta", "application/xml"), ("xof", "x-world/x-vrml"), ("xoml", "text/plain"),
   ("xpi", "application/x-xpinstall"), ("xpm", "image/x-xpixmap"),
   ("xps", "application/vnd.ms-xpsdocument"), ("xrm-ms", "text/xml"), ("xsc", "application/xml"),
   ("xsd", "text/xml"), ("xsf", "text/xml"), ("xsl", "text/xml"), ("xslt", "text/xml"),
   ("xsn", "application/octet-stream"), ("xspf", "application/xspf+xml"),
   ("xss", "application/xml"), ("xtp", "application/octet-stream"),
   ("xwd", "image/x-xwindowdump"), ("xz", "application/x-xz"), ("yaml", "text/x-yaml"),
   ("yml", "text/x-yaml"), ("z", "application/x-compress"), ("zip", "application/zip")]

/-- The extension of a file name. -/
def extensionOf (name : String) : Option String :=
  let cs := name.toList
  match cs.reverse.idxOf? '.' with
  | some j => if j + 1 < cs.length then some (String.ofList (cs.drop (cs.length - j))) else none
  | none => none

/-- The content type suggested by a file name. -/
def guessType (name : String) : Option String :=
  (extensionOf name).bind fun ext => extensionTypes.lookup (String.ofList (ext.toList.map Char.toLower))

end Storefront.Media
