namespace Covenant.Text

def easternNames : String :=
  "U+3000 |bo%1fq!cDITTO cn+.INDUSTRIAL .<:wg.d(b>.dyb>dwd|bcl:bhl:bc!ebh!ebcgmso&%!fgmsoaq&%bca*>$so.s|0.ebcnGETA a&bc
   k|bhk|!f>$soaq>$fh!fk|bhaqk|!fobbhaqob0h%eyo=.s!.s!dc.s!.eba&a|.x;s(avek|bLEVEL !gnu!g.me!gENTERING b!cn,abya%!gala%
   b!cns%eyx%KANA )$a&.<=3a&c,a=.<=c,a=3a&dia=o^.ebcnwg.tcd:.mfj,ax.x;s(ghuh2rfx%wg.h%MASU cn.mgALTERNATION cnwg)&zs1a=
   n&o%U+3041 .h.ab.<(KE U+3099 ou.ec$arwb;.s%cn.ec$arwb>.s%cn.h).<!YORI 0.ecalpq0ruacab.<(KE 2ocv,2VE 2wh1bd;*.<|cnru
   .<!KOTO U+3105 0.<^y!+ak;F 2!r+eoq*<*k*sy%!kQ 2X 2ZH 2CH 2SH 2o>Z 2C 2e^brfze*zt2cu2zm2w^z(.shro2rk2ER ice.)t2nqNG 2
   GN 2IH 2O e&2NN U+3131 0,aac.=a.eg2.=c2.ek2.el.tj.<%.r=.=d%)I 1+wan.ms.tl.=e.x%.tm.=f.=g.x(.tn.tq.=h.<).tw2.<..:i.x)
   .=k.t..:q.:r.ue.=l.=b.=m2YO-I 2.=n2YU-I 2ARAEA 2ARAEAE U+3190 |b.x.LINKING b;rya&d%a&d(a&d)a&d.b;exb;bdb;glb;v$b;+o
   b;rgb;.dib;.enb;n*b;mkcn.<^;k;mzj2lg2uqENN 2qmONN 2IR 2ANN 2INN 2UNN 2wb2NGG 2AINN 2AUNN 2z$2zw2ONG 2INNN 1cdacP ks3
   K xlanGH 2LH 2ZY 1cdacG anGW 2KW 2cv2zk0CJK b=+eWG 2XG 2BXG 2SW 2HZZ 2HZG 2HP 2HZWG 2SZWG 2HZT 2HZZP 2HPWG 2HZW 2
   HZZZ 2oqy%e^+aSP 2!rHZ 2HG 2SZ 2SWZ 2ST 2SG 2PD 2PZ 2TN 2SZZ 2SWG 2HXWG 2HZZZG 2PG 2Q U+31F0 0ruacab&)!a!hTO 3NU .=i
   :f.=j0.eo.=pbr)+U 1.mt$bOJEON 3O poU+3220 1.=vREPRESENT 2.l,.=xFESTIVAL 2mgSELF 2REACH o^.muow2KINDERGARTEN 2.mv2
   KOTO :q&(uh&(2rf&(2+m&(2ld&(2=$&(2+n&(2(kc)a*k(.yaakdjdwpbavuf2rfflt:f%1.=pA 1.mt$bCHAMKO 3JUEUI 1,a)*U 0.mt.<:dj.=v
   SECRET 2$c2>&2SUITABLE 2EXCELLENT 2PRINT 2ATTENTION 2ITEM 2mgCOPY 2CORRECT =n2f|s=k,d*2MEDICINE 2RELIGION .=x.eq$:rf
   ecucudue2+mfluf2ld.tdJANUARY 4FEBRUARY 4MARCH 4APRIL 4MAY 4JUNE 4JULY 4AUGUST 4SEPTEMBER 4OCTOBER 4NOVEMBER 4
   DECEMBER o|HG 1ERG 1EV 0LIMITED LIABILITY akdjrubr.=ohi;hKU ;fKO e+SI 2SU 2SE &:w*&<TU vo2TO .,|j+iw2pom.le.,!y|fs
   .,%otWI &+2WO o|ERA .epREIWA 1APAATO 1ARUHUA 1ANPEA 1AARU 1ININGU 1INTI 1UON 1ESUKUUDO 1EEKAA 1ONSU 1OOMU 1KAIRI 1
   KARATTO 1KARORII 1GARON 1GANMA 1GIGA 1GINII 1KYURII 1GIRUDAA 1KIRO 1KIROGURAMU 1KIROMEETORU 1KIROWATTO 1GURAMU 1
   GURAMUTON 1KURUZEIRO 1KUROONE 1KEESU 1KORUNA 1KOOPO 1SAIKURU 1SANTIIMU 1SIRINGU 1SENTI 1SENTO 1DAASU 1DESI 1DORU 1
   TON 1NANO 1NOTTO 1HAITU 1PAASENTO 1PAATU 1BAARERU 1PIASUTORU 1PIKURU 1PIKO 1BIRU 1HUARADDO 1HUIITO 1BUSSYERU 1HURAN
   1HEKUTAARU 1PESO 1PENIHI 1HERUTU 1PENSU 1PEEZI 1BEETA 1POINTO 1BORUTO 1HON 1PONDO 1HOORU 1HOON 1MAIKURO 1MAIRU 1
   MAHHA 1MARUKU 1MANSYON 1MIKURON 1MIRI 1MIRIBAARU 1.tbMEGATON 1MEETORU 1YAADO 1YAARU 1YUAN 1RITTORU 1RIRA 1RUPII 1
   RUUBURU 1REMU 1RENTOGEN 1WATTO .tdHOUR d|5.=to|HPA 1DA 1AU 1ck1OV 1PC 1DM 2f>2.ca)t1ERA .epHEISEI 3SYOUWA 3TAISYOU 3
   MEIZI 1CORPORATION 1PA AMPS 1NA ;+A 1MA 1KA 1KB 1MB 1GB 1CAL 1KCAL 1PF 1NF ;+F 2G 1MG 1KG 1HZ 1KHZ 1MHZ 1GHZ 1THZ ;+
   L 1ML 1DL 1KL 1FM 1NM ;+M 1MM 1CM 1KM 1MM f>1CM f>1M f>1KM f>1MM .caCM .caM .caKM .caM .=rPA 1)o1MPA 1GPA 1RAD 2.=r
   PS 1NS ;+S 1MS 1PV 1NV ;+V 1),1KV 1),.tbPW 1NW ;+W 1MW 1KW 1MW .tbK OHM 1M OHM 1z$1BQ 1CC 1CD 1C a<KG 1rz1DB 1GY 1b&
   1HP 1cp1KK 1KM af1KT 1LM 1LN 1LOG 1LX 1MB ab1MIL 1MOL 1PH 1PM 1PPM 1PR 1SR 1SV 1WB 1V a<M 1A a<M .tdDAY .=t5.u&5
   TWENTY-SIX 5TWENTY-SEVEN 5TWENTY-EIGHT 5TWENTY-NINE 5rf5THIRTY-ONE o|+*U+4DC0 0HEXAGRAM j)f,CREATIVE .en3RECEPTIVE
   n*2DIFFICULTY h=f,BEGINNING 2YOUTHFUL FOLLY 2.=yCONFLICT o)ARMY 2>*.erdq.=zTREADING 2.mw2STANDSTILL 2FELLOWSHIP .j;
   .xb2MODESTY 2ENTHUSIASM 2.=$.mxc)f,DECAYED 2APPROACH 2CONTEMPLATION 2.yc=c2GRACE 2SPLITTING APART 2.es2INNOCENCE .j;
   .=zlr>+.j;.ydo)ABYSMAL pr3CLINGING ts2INFLUENCE 2DURATION 2RETREAT .j;.my2PROGRESS .=&a(f,bao).ye2.mz2OBSTRUCTION 2
   DELIVERANCE 2.yf2.m$2BREAKTHROUGH 2COMING TO MEET .uf.er2PUSHING .yg2OPPRESSION o)WELL 2REVOLUTION o).yh3AROUSING
   .m&3.yiSTILL $d2DEVELOPMENT o)MARRYING MAIDEN 2ABUNDANCE o)WANDERER 3GENTLE >,3JOYOUS LAKE 2DISPERSION 2LIMITATION 2
   INNER TRUTH dq.yd2AFTER .m*2BEFORE .m*U+A000 0wfo.IT 2IX icIP 2IET 2IEX 2ml2IEP 2h=2AX &=AP 2UOX 2UO 2UOP 2OT 2OX f.
   OP 2EX i&tb2BIT 2BIX 2mu2BIP 2BIET 2BIEX 2BIE 2BIEP 2BAT 2BAX +iBAP 2BUOX 2BUO 2BUOP 2BOT 2j.2rx2BOP 2BEX 2BE 2BEP 2
   $e2BUX 2;kBUP 2BURX 2zh2BYT 2BYX 2,b2BYP 2BYRX 2BYR 2PIT 2PIX 2y:PIP 2PIEX 2PIE 2PIEP 2PAT 2PAX ianv2PUOX 2PUO 2PUOP
   2POT 2POX 2PO 2POP 2PUT 2PUX 2PU 2PUP 2PURX 2PUR 2PYT 2PYX 2PY 2PYP 2PYRX 2PYR 2BBIT 2BBIX 2BBI 2BBIP 2BBIET 2BBIEX
   2BBIE 2BBIEP 2BBAT 2BBAX .hy2BBAP 2BBUOX 2BBUO 2BBUOP 2BBOT 2BBOX 2BBO 2BBOP 2BBEX 2BBE 2BBEP 2BBUT 2BBUX 2BBU 2BBUP
   2BBURX 2BBUR 2BBYT 2BBYX 2BBY 2BBYP 2NBIT 2NBIX 2NBI 2NBIP 2NBIEX 2NBIE 2NBIEP 2NBAT 2NBAX 2NBA 2NBAP 2NBOT 2NBOX 2
   NBO 2NBOP 2NBUT 2NBUX 2NBU 2NBUP 2NBURX 2NBUR 2NBYT 2NBYX 2NBY 2NBYP 2NBYRX 2NBYR 2HMIT 2HMIX 2HMI 2HMIP 2HMIEX 2
   HMIE 2HMIEP 2HMAT 2HMAX 2HMA 2HMAP 2HMUOX 2HMUO 2HMUOP 2HMOT 2HMOX 2HMO 2HMOP 2HMUT 2HMUX 2HMU 2HMUP 2HMURX 2HMUR 2
   HMYX 2HMY 2HMYP 2HMYRX 2HMYR 2MIT 2MIX vl2MIP 2MIEX 2MIE 2MIEP 2MAT 2MAX fc)g2MUOT 2MUOX 2MUO 2MUOP 2MOT 2MOX sf2MOP
   2MEX 2ME 2MUT 2MUX :&2MUP 2MURX 2MUR 2MYT 2MYX 2MY 2MYP 2FIT 2FIX 2r$2FIP 2FAT 2FAX s;FAP 2FOX +l2FOP 2FUT 2FUX 2we2
   FUP 2FURX 2FUR 2FYT 2FYX 2FY 2FYP 2VIT 2VIX 2v,2VIP 2VIET 2VIEX 2VIE 2VIEP 2VAT 2VAX 2ocVAP 2VOT 2VOX 2wh2VOP 2VEX 2
   VEP 2VUT 2VUX 2>r2VUP 2VURX 2VUR 2VYT 2VYX 2VY 2VYP 2VYRX 2VYR 2DIT 2DIX 2DI 2DIP 2DIEX 2DIE 2DIEP 2DAT 2DAX kmDAP 2
   DUOX 2DUO 2vtDOX =p2DOP 2DEX 2DE 2DEP 2DUT 2DUX 2DU 2DUP 2DURX 2DUR 2TIT 2TIX 2&<n+2TIEX 2>:2TIEP 2TAT 2TAX w*TAP 2
   TUOT 2TUOX 2TUO 2TUOP 2TOT 2TOX y<ex2TEX vo2TEP 2TUT 2TUX 2:>TUP 2TURX 2((2DDIT 2DDIX 2DDI 2DDIP 2DDIEX 2DDIE 2DDIEP
   2DDAT 2DDAX xb2DDAP 2DDUOX 2DDUO 2DDUOP 2DDOT 2DDOX 2DDO 2DDOP 2DDEX 2DDE 2DDEP 2DDUT 2DDUX 2DDU 2DDUP 2DDURX 2DDUR
   2NDIT 2NDIX 2NDI 2NDIP 2NDIEX 2NDIE 2NDAT 2NDAX 2>o2.ly2NDOT 2NDOX 2NDO 2NDOP 2NDEX 2NDE 2NDEP 2NDUT 2NDUX 2NDU 2
   NDUP 2NDURX 2NDUR 2HNIT 2HNIX 2HNI 2HNIP 2HNIET 2HNIEX 2HNIE 2HNIEP 2HNAT 2HNAX 2HNA 2HNAP 2HNUOX 2HNUO 2HNOT 2HNOX
   2HNOP 2HNEX 2HNE 2HNEP 2HNUT 2NIT 2NIX 2NI 2NIP 2NIEX 2NIE 2NIEP 2NAX jsNAP 2NUOX 2NUO 2NUOP 2cw2NOX &wNOP 2NEX &n2
   NEP 2NUT 2NUX 2NU 2NUP 2NURX 2NUR 2HLIT 2HLIX 2HLI 2HLIP 2HLIEX 2HLIE 2HLIEP 2HLAT 2HLAX 2HLA 2HLAP 2HLUOX 2HLUO 2
   HLUOP 2HLOX 2HLO 2HLOP 2HLEX 2HLE 2HLEP 2HLUT 2HLUX 2HLU 2HLUP 2HLURX 2HLUR 2HLYT 2HLYX 2HLY 2HLYP 2HLYRX 2HLYR 2LIT
   2LIX 2i.2LIP 2LIET 2LIEX 2LIE 2LIEP 2LAT 2LAX e;LAP 2LUOT 2LUOX 2LUO 2LUOP 2LOT 2LOX 2;iLOP 2LEX 2mn2LEP 2LUT 2LUX 2
   ja2LUP 2LURX 2LUR 2LYT 2LYX 2LY 2LYP 2LYRX 2LYR 2GIT 2GIX 2;lGIP 2GIET 2GIEX 2GIE 2GIEP 2GAT 2GAX m:GAP 2GUOT 2GUOX
   2GUO 2GUOP 2GOT 2GOX 2pp2GOP 2GET 2GEX 2v;2GEP 2GUT 2GUX 2lg2GUP 2GURX 2GUR 2KIT 2KIX 2;hKIP 2KIEX 2KIE 2KIEP 2KAT 2
   KAX 2hiKAP 2KUOX 2KUO 2.lx2KOT 2KOX 2vhKOP 2KET 2KEX ;fKEP 2KUT 2KUX 2KU 2KUP 2KURX 2tm2GGIT 2GGIX 2GGI 2GGIEX 2GGIE
   2GGIEP 2GGAT 2GGAX 2.b+GGAP 2GGUOT 2GGUOX 2GGUO 2GGUOP 2GGOT 2GGOX 2GGO 2GGOP 2GGET 2GGEX 2GGE 2GGEP 2GGUT 2GGUX 2
   GGU 2GGUP 2GGURX 2GGUR 2MGIEX 2MGIE 2MGAT 2MGAX 2MGA 2MGAP 2MGUOX 2MGUO 2MGUOP 2MGOT 2MGOX 2MGO 2MGOP 2MGEX 2MGE 2
   MGEP 2MGUT 2MGUX 2MGU 2MGUP 2MGURX 2MGUR 2HXIT 2HXIX 2HXI 2HXIP 2HXIET 2HXIEX 2HXIE 2HXIEP 2HXAT 2HXAX 2HXA 2HXAP 2
   HXUOT 2HXUOX 2HXUO 2HXUOP 2HXOT 2HXOX 2HXO 2HXOP 2HXEX 2HXE 2HXEP 2NGIEX 2NGIE 2NGIEP 2NGAT 2NGAX kr2NGAP 2NGUOT 2
   NGUOX 2NGUO 2NGOT 2NGOX .c.2NGOP 2NGEX 2NGE 2NGEP 2HIT 2HIEX 2HIE 2,c2HAX 2j+HAP 2HUOT 2HUOX 2HUO 2HUOP 2):2HOX <e2
   HOP 2HEX m.HEP 2WAT 2WAX otWAP 2WUOX 2WUO 2WUOP 2WOX &,WOP 2WEX &+2WEP 2ZIT 2ZIX 2;mZIP 2ZIEX 2ZIE 2ZIEP 2ZAT 2ZAX 2
   jqZAP 2ZUOX 2ZUO 2ZUOP 2ZOT 2ZOX 2ZO 2ZOP 2ZEX 2!^ZEP 2ZUT 2ZUX 2!*ZUP 2ZURX 2ZUR 2ZYT 2ZYX 2ZY 2ZYP 2ZYRX 2ZYR 2CIT
   2CIX .j^CIP 2CIET 2CIEX 2CIE 2CIEP 2pc2CAX m&2CAP 2CUOX 2CUO 2CUOP 2COT 2COX 2rz2COP 2CEX !=CEP 2CUT 2CUX 2CU 2);2
   CURX 2CUR 2CYT 2CYX 2CY 2CYP 2CYRX 2CYR 2ZZIT 2ZZIX 2ZZI 2ZZIP 2ZZIET 2ZZIEX 2ZZIE 2ZZIEP 2ZZAT 2ZZAX .taZZAP 2ZZOX
   2ZZO 2ZZOP 2ZZEX 2ZZE 2ZZEP 2ZZUX 2ZZU 2ZZUP 2ZZURX 2ZZUR 2ZZYT 2ZZYX 2ZZY 2ZZYP 2ZZYRX 2ZZYR 2NZIT 2NZIX 2NZI 2NZIP
   2NZIEX 2NZIE 2NZIEP 2NZAT 2NZAX 2NZA 2NZAP 2NZUOX 2NZUO 2NZOX 2NZOP 2NZEX 2NZE 2NZUX 2NZU 2NZUP 2NZURX 2NZUR 2NZYT 2
   NZYX 2NZY 2NZYP 2NZYRX 2NZYR 2SIT ed2SI 2SIP 2SIEX 2SIE 2SIEP 2SAT 2SAX e+SAP 2SUOX 2SUO 2SUOP 2SOT 2SOX &;SOP 2SEX
   ;gSEP 2SUT 2SUX 2|$SUP 2SURX 2SUR 2SYT 2SYX 2SY 2SYP 2SYRX 2SYR 2SSIT 2SSIX .uxSSIP 2SSIEX 2SSIE 2SSIEP 2SSAT 2SSAX
   2li2SSAP 2SSOT 2SSOX 2SSO 2SSOP 2SSEX 2SSE 2SSEP 2SSUT 2SSUX 2SSU 2SSUP 2SSYT 2SSYX 2SSY 2SSYP 2SSYRX 2SSYR 2ZHAT 2
   ZHAX 2y=ZHAP 2ZHUOX 2ZHUO 2ZHUOP 2ZHOT 2ZHOX 2ZHO 2ZHOP 2ZHET 2ZHEX 2mo2ZHEP 2ZHUT 2ZHUX 2ZHU 2ZHUP 2ZHURX 2ZHUR 2
   ZHYT 2ZHYX 2ZHY 2ZHYP 2ZHYRX 2ZHYR 2CHAT 2CHAX 2it2CHAP 2CHUOT 2CHUOX 2CHUO 2CHUOP 2CHOT 2CHOX 2wi2CHOP 2CHET 2CHEX
   2ha2CHEP 2CHUX 2CHU 2CHUP 2CHURX 2CHUR 2CHYT 2CHYX 2CHY 2CHYP 2CHYRX 2CHYR 2RRAX sk2RRUOX 2RRUO 2RROT 2RROX 2RRO 2
   RROP 2RRET 2RREX 2RRE 2RREP 2RRUT 2RRUX 2RRU 2RRUP 2RRURX 2RRUR 2RRYT 2RRYX 2RRY 2RRYP 2RRYRX 2RRYR 2NRAT 2NRAX 2NRA
   2NRAP 2NROX 2NRO 2NROP 2NRET 2NREX 2NRE 2NREP 2NRUT 2NRUX 2NRU 2NRUP 2NRURX 2NRUR 2NRYT 2NRYX 2NRY 2NRYP 2NRYRX 2
   NRYR 2SHAT 2SHAX 2m;SHAP 2SHUOX 2SHUO 2SHUOP 2SHOT 2SHOX 2rt2SHOP 2SHET 2SHEX 2q%SHEP 2SHUT 2SHUX 2=mSHUP 2SHURX 2
   SHUR 2SHYT 2SHYX 2SHY 2SHYP 2SHYRX 2SHYR 2RAT 2RAX 2naRAP 2RUOX 2RUO 2RUOP 2ROT 2ROX 2q(ROP 2REX 2RE 2REP 2RUT 2RUX
   2&&RUP 2RURX 2RUR 2RYT 2RYX 2RY 2RYP 2RYRX 2RYR 2JIT 2JIX 2zj2JIP 2JIET 2JIEX 2JIE 2JIEP 2JUOT 2JUOX 2JUO 2JUOP 2$f2
   JOX 2JO 2JOP 2JUT 2JUX 2JU 2JUP 2JURX 2JUR 2JYT 2JYX 2JY 2JYP 2JYRX 2JYR 2QIT 2QIX 2QI 2QIP 2QIET 2QIEX 2QIE 2QIEP 2
   QUOT 2QUOX 2QUO 2QUOP 2QOT 2QOX 2QO 2QOP 2QUT 2QUX 2)<2QUP 2QURX 2QUR 2QYT 2QYX 2QY 2QYP 2QYRX 2QYR 2JJIT 2JJIX 2JJI
   2JJIP 2JJIET 2JJIEX 2JJIE 2JJIEP 2JJUOX 2JJUO 2JJUOP 2JJOT 2JJOX 2JJO 2JJOP 2JJUT 2JJUX 2JJU 2JJUP 2JJURX 2JJUR 2
   JJYT 2JJYX 2JJY 2JJYP 2NJIT 2NJIX 2)f2NJIP 2NJIET 2NJIEX 2NJIE 2NJIEP 2NJUOX 2NJUO 2NJOT 2NJOX 2NJO 2NJOP 2NJUX 2NJU
   2NJUP 2NJURX 2NJUR 2NJYT 2NJYX 2NJY 2NJYP 2NJYRX 2NJYR 2NYIT 2NYIX 2wd2NYIP 2NYIET 2NYIEX 2NYIE 2NYIEP 2NYUOX 2NYUO
   2NYUOP 2NYOT 2NYOX 2wj2NYOP 2NYUT 2NYUX 2NYU 2NYUP 2XIT 2XIX 2>;2XIP 2XIET 2XIEX 2XIE 2XIEP 2XUOX 2XUO 2XOT 2XOX 2XO
   2XOP 2XYT 2XYX 2XY 2XYP 2XYRX 2XYR 2YIT 2YIX %)YIP 2YIET 2YIEX 2YIE 2YIEP 2YUOT 2YUOX 2YUO 2YUOP 2($2YOX uyYOP 2YUT
   2YUX 2&*YUP 2YURX 2YUR 2YYT 2YYX 2YY 2YYP 2YYRX 2YYR U+A490 1.etQOT 2i.2KIT 2NYIP 2CYP .uxGGOP 2GEP vl2HXIT 2LYR 2
   BBUT 2MOP uyPUT 2HXUO 2TAT m:ZUP 2CYT 2DDUR 2zh2GGUO 2NYOP 2:>OP 2JJUT 2ZOT 2PYT 2HMO 2YIT 2VUR 2SHY 2VEP 2jqJO 2
   NZUP 2JJY 2GOT 2JJIE &,DU 2SHUR 2LIE 2CY 2CUOP 2CIP 2HXOP 2SHAT 2ZUR 2SHOP 2ha2ZZIET 2NBIE 2KE U+A4D0 .<cisiajbklxg
   m:w+l$w!2z&+jv:fcNA e:e+y=ZA kr2j+<,zns;odm;h)lk&=dxi&z)icfze.g$2UH 2cv2b!MYA TI p=PO 3MYA CYA 4rx4NA 4JEU jwdy2!c
   VAI o.uqEEN 2HEE 2WEE 2WEEN 2PEE 2BHEE 2(l2MBEE 2KPEE 2MGBEE 2GBEE .h^+s2(p2.dm2DHEE 2DHHEE 2LEE 2)m2(q2.lz2+|2.d<2
   ZEE 2.km2CEE 2(r2)j2(o2KEE 2NGGEE 2)=2MEE 2NEE 2NYEE icvuiw2HIN 2WI 2WIN 2y:BHI 2mu2MBI 2KPI 2MGBI 2GBI 2r$2v,2&<.j|
   DHI 2DHHI 2i.2&xDI 2NDI 2SI 2.iw;mZHI .j^zj2)f%);hNGGI 2nwvl2NI 2wd&=AN 2NGAN 2j+HAN otWAN iap%+i)h2)o2KPAN 2MGBA 2
   GBA s;gyxg2mm2DHHA e;RA km>oe+m;jqphm&l&NJA y|hi)>2)n2m+fcNA w,qmOON 2HOO 2)^2WOON 2)|2BHOO 2BOO 2.m+2KPOO 2MGBOO 2
   GBOO 2FOO 2VOO 2>q2.m,2DHOO 2DHHOO 2><2ROO 2DOO 2NDOO 2)!2.m:2ZOO 2ZHOO 2COO 2JOO 2NJOO 2YOO 2)q2.m;2GOO 2MOO 2NOO 2
   NYOO p<++2po2HUN 2tb2WUN 2PU 2BHU 2;kMBU 2KPU 2MGBU 2GBU 2we2>r2:>THU 2DHU 2DHHU 2ja2&&DU 2NDU 2|$=m!*ZHU 2CU 2JU 2
   NJU 2&*KU 2.lw2lg:&2NU 2NYU f.c)2NGON <e2HON &,WON 2PO 2BHO 2rx2MBO 2KPO 2MGBO 2GBO 2GBON +l2why<ls2DHO 2DHHO 2;iq(
   DO 2NDO &;rt2ZO 2ZHO 2rz2JO 2NJO uyvh.m<2ppsf&wwji&EN 2NGEN m.HEN &+2WEN scBHE 2BE 2MBE 2KPE 2KPEN 2MGBE 2GBE 2GBEN
   2rl2VE voo)2DHE 2DHHE 2mn2RE 2DE 2NDE ;gq%!^mo!=JE 2==|w;f.m=2NGGEN 2v;2GEN 2ME &n2NYE 2NG 2.eu1fqdu|o.=*hcxz)!sn
   FEENG 2KEENG 2TING 2NII 2BANG 2FAA 2.b).m>2DOONG 2KUNG 2TONG 2DO-O 2JONG x$.=*MA 3DO U+A640 0mwag.yjae.yjah.m^ae.m^
   !l,d;,,dahltaeltah.m|ae.m|ah.tkae.tkah.=+ae.=+ahkaYER aekaYER ah.=:ae.=:!nv*!ov*!lfs;,fs!nA !oA ahdkx)aedkx)ah.=,ae
   .=,!ndkx)!odkx)ah>>ae>>!lpe;,peahpsDE aepsDE ahpsEL aepsEL ahpsEM aepsEM ah.evx..ev!p.ykx..yk!pal.evx.al.evO an
   MULTIOCULAR O oumwVZMET i*+%i^bv+%i^bn+%akSLAVONIC kwnsmwac.ylmle(wffj.:e:d2>^2.ym0mw>^1.ymahDWE aeDWE ahDZWE aeDZWE
   ahZHWE aeZHWE ah.m!ae.m!ahDZZE aeDZZE ahTE .cbTE .cc(jae(jahTSWE aeTSWE ahTSSE aeTSSE ahTCHE aeTCHE ahHWE aeHWE ah>|
   ae>|ahalx.al!pn,x.n,O k=mw.hn3psaknsmwac+r3>=E 0BAMUM xmhie.KU 2uq)m2TAE f.wdice,iaRII 2RIEE 2LEEEE 2.l$2.b)NDAA 2
   .lv2k;SUU :&2.d=2SI 2SHEUX 2.lu2.d>2KET 2NUAE 2NU 2NJUAE 2YOQ 2=mYUQ y|.lr2KEUX 2.l;2)j2.l&2PUE 2WUE 2PEE .h^&&javl2
   NI 2.l<2)l2KEN 2.xp2)nkr2rt2.l+2we2FOM 2WA jsi.2y:LOQ 2vhMBEN 2REN 2z%fc&<KI sf2MBAA .hv2)oi*2NTUU 2SAMBA 2FAAMAE 2
   KOVUU 2KOGHOM |>a&KOQNDON 3TUKWENTIS 1.xn1duuwfqr&1oxU+A700 k=.xsb!wk.m%4pt.m%4wkSHANG 4ptSHANG 4wk)<4pt)<4wkRU 4pt
   &&.exdzr)c+dzr)+!dzr)dcdzr).eydzr).exdzu:c+dzu:+!dzu:dcdzu:.eydzu:.exu:c+u:+!u:dcu:.eyu:a%fp3kb3b<r(oygme|2h(aya!l>
   a!3;:3crn$b;dccrn$b;.m(aic+b!ozb!!q.ezeuae.ezeuah.ezf:ae.ezf:ah(tae(tahTZ aeTZ ah.ynae.ynah.e$ae.e$ah.e$aadyae.e$aa
   dyhrF 4S ahftaeftahAO aeAO ahAU aeAU ah>sae>sah>saa&.ae>saa&.ahrjaerj!lC do;,C doahK hsK hwK .idK .ic.=<ae.=<ah>!L
   ae>!L ahsmc+b=aesmc+b=epa;b=nmgua;b=nmepiyguiyahi%aei%ahP !saeP !sahP .ifaeP .ifahP .=;c.aeP .=;c.ahQ !saeQ !sahQ
   .idQ .icR )%aeR )%ahRUM )%aeRUM )%ahV .idV .icVY aeVY ah.==ae.==ah,ehs,ehw,e!sae,e!sahVEND aeVEND ahrpaerpah>%ae>%ah
   CON aeCON k=US ybDUM 3wa3MUM 3NUM 3RUM hrRUM aeTUM 3(z.cdD .cfD .cdF .cfF ah;<gw;<!t;<ahb|L !tL .cdR .cfR .cdS .cfS
   .cdT .cfT k=dc&p2h+%>kcakqo.yoae.yoahb|H aesm;oairmanSINOLOGICAL a%ahN jzN o$C aackaeC aack5g(H aag%bxahB .ifaeB .if
   ahF hsF hw>(dxae>(dxah>(cvae>(cvah>(g$ae>(g$ahyc.ceyc.chK aa.ceK aa.chN aa.ceN aa.chfr.cefr.chup.ceup.chH f+b(&>h!G
   m$aarm3hqI hrQ ahb|K 4T 3J !v3mp3s.aes..=(U hsU hwhnA aehnA ahhnI aehnI ahhnU aehnU ahnt.m)x.nt.m)!p.=>ae.=>ahC g)S
   f+Z g)D .=^aeD .=^ah.=!ae.=!U+A7D0 ahdk;<aedk;<U+A7D3 jn,eU+A7D5 4.e&ah.=|S ae.=|S ah.ypS ae.ypS U+A7F2 k=afC 3F 3Q
   !qb(a=H ;,a=H .=%wlI k=afH dpdqdmcvyaachqb|M .=%b(F 4P 3crM 3I .m.3h:M 0SYLOTI NAGRI acc:ibajDVISVARA j*d=czfzaj.yq
   j*|:,f3pp3GHO s,t;acrz3wi3|&JHO 3TTO 3.e*3DDO 3DDHO 3TO 3ls3DO 3DHO 3NO 3PO 3r*3rx3BHO 3MO 3RO 3pj3RRO 3SO 3le%tgoI
   kpt,qmPOETRY .kwdeajgi.yqU+A830 0gdINDIC .=)fl)(4mte).k>2irb;.kzb;,gb;QUANTITY a&U+A840 0PHAGS-PA ac.;%ZA dqbr|cj;n.
   &=.=o%(zis;.b+lj.b!WA qaanxcxf2gih)VOICELESS m;$aj+ASPIRATED hc.b!RA 1SUPERFIXED acRA anj|1byhyb>alhyb>a&v.f$v.
   U+A880 0SAURASHTRA ajui.h:i&uqcuf.qmxjp.e;:<=ineHAARU |<.cgfa.bpubj|U+A8CE u,emU+A8E0 ou.naugj*A fjhkNA ofxxv,s,zv0
   .naaj.nbj|2j|h<f$j|ubj|bbe)3zv2PUSHPIKA 1.st1wm1.kva>+z1JAIN zwanrjburj0KAYAH i.ugj*.b^h>omm!ZA 3h;uoHTA .rum|ol&dkv
   qaqby^hbjogy3lh;jcve(qmbsg$etd=sefzb!.yr3CALYA 4.yrs,CWI 3SHYA 0REJANG ac.r*fclhl&h;e+RA e;h)odj+)h2)n2>o2NYJA 2A
   .s&cufa<dz)3EA neNG g=3r%H 1h<U+A95F 1ivcn.=.TIKEUT-MIEUM .^g.^i.mh2.ys.tmRIEUL-SSANGTIKEUT 2.mi2.mj2
   RIEUL-SSANGPIEUP .^j2.mk2RIEUL-CIEUC 2.^k.^mMIEUM-TIKEUT 2.tqPIEUP-SIOS-THIEUTH 2PIEUP-KHIEUKH .^n2SSANGSIOS-PIEUP 2
   IEUNG-RIEUL 2IEUNG-HIEUH 2SSANGCIEUC-HIEUH 2SSANGTHIEUTH 2PHIEUPH-HIEUH 2HIEUH-SIOS 2SSANGYEORINHIEUH U+A980 0
   JAVANESE ajPANYANGGA 2CECAK 2LAYAR 2WIGNYAN anbrI KAWI 32II p<PA CEREK krLELET 4RASWADI ;vhkSASAK %.2ok>)krm&%.l&h;
   >)l$$gw,&h$gxb3$gjr>)kk%.kl3$gjsPA %.p|%.p)3AGUNG e;WA 2SA >)3$g32b&a>CECAK TELU buTARUNG 3TOLONG 3WULU 4MELIK 3SUKU
   4MENDUT 3.yt3DIRGA MURE 3PEPET neKERET 3PENGKAL 3CAKRA 1PANGKON gc.yuco.yu1.ncANDAP 2MADYA 2LUHUR 2WINDU 2PANGKAT 2
   LINGSA 2LUNGSI 2.e+3.e+2.yv1b|.nc.yvU+A9CF 1PANGRANGKEP emU+A9DE 1.ncTIRTA TUMETES 2ISEN-ISEN .tor+lksams3v>3p%a>r+
   SAW ;%r+.>a.ihh;4hcshlk4JA 4ms4xa4xe4v>1.ih!zan.ihpi4DA 4mm4is4p%U+AA00 0CHAM .bue*cuf.w|2NGUE kr2it2CHHA l&ms2NHUE
   2(:2NHJA xh2NUE jrxbiaPPA 2jbp|p(2MUE fcBBA 2|coclin.but<3zmfjcvfa&y<dg$nehzkvqby>U+AA40 ancdK :g3NG necdNG ancdCH
   ksg=3P $<R $,SS necdM 4H U+AA50 emU+AA5C jw.e,2u*f$u*2dau*.to))oklhsal!ms3:o&hw..himmp=omjozn3hc;%)).>a))zi3ZA kv1(w
   ))OAY 3QN 3HM sn.ndn$fld$an.ndRA a>PAO ).+k.ih>u4.nean>|.ywit4j;0=+VIET acdcKO dvKO dd,fdv,fddKHHO dvKHHO ddppdvppdd
   NGO dvNGO ddrzdvrzddwidvwiddSO dvSO ddwjdvwjddDO dvDO ddTO dvTO ddlsdvlsddNO dvNO ddrxdvrxddPO dvPO ddr*dvr*ddFO dv
   FO ddMO dvMO ddj%dvj%ddRO dvRO ddpjdvpjddwhdvwhddledvledde!c+fz.tp2bsfte(g$fjczfzttKHIT 2bsIA 3UEA 3>f3AUE 3rj3;ez$2
   b!ttEK 4NUENG 4ls4SONG U+AADB 2awKON 3NUENG 3SAM 3leHOI 3KOI KOI .>bcze!it3.hum!li%tII 4UU 4AAI 4AU 4AAU 2CHEIKHAN 2
   AHANG KHUDAM 2.k&2o..k*b;lc.k*b;btpm2h<U+AB01 0.iiTTHU 2TTHI .s=TTHEE 2TTHE 2.e*U+AB09 2DDHU 2DDHI 2DDHAA 2DDHEE 2
   DDHE 2DDHO U+AB11 2DZU 2DZI 2DZAA 2DZEE 2,d2DZO U+AB20 2CCHHA 2CCHHU 2CCHHI 2CCHHAA 2CCHHEE 2CCHHE 2CCHHO U+AB28 .hy
   2BBU 2BBI 2BBAA 2BBEE 2BBE 2BBO U+AB30 ybtufu3A REVERSED-SCHWA .>gcztuczku.ie3LENIS F 3h!yc!u.>calbda)5bda.vs!vg=!v3
   rk!v.>gO 5ncbeO nccrcvgwcvdp6l=4O OPEN-O 6ncSTIRRUP R hrfraps!aeR .>djnr%fr!ujnfr!u3h!R l^a.3.yxi!3hhb%aps!4ck.>e3UI
   gwUI 3hhamf*mp4aa.tr6amSERIF 3X aa.tr5a;ams!8ai.tr8aaSERIF w:.>e0k<ezaaj$anab(t.>cbda)3hhambxybSAKHA v*3>=czbecv3UO
   3crfuu&achqh*ybzoi)o:TS i)o:b|R o*k=abb|W k,fvd*fvU+AB70 .>fadA et|ld=:kokhkv;3nw3pp3lg3GV jo.>hpo3HV &rmn3i.3pj=kLV
   urME 3MI 3MO :fvrHNA 3NAH 3:)|!NO ^.NV 3QUA 3QUE 3QUI 3QUO 3QUU 3QUV omvp3;b!aSO 3!hSV oluoDE 3x+DI 3;nDO 3DU 3DV 3
   DLA 3TLA 3TLE 3TLI 3TLO 3TLU 3TLV 3i(3pe.r<TSO 3TSU 3TSV y^x,WI 3WO 3tb3WV qa.>bKOK 3SAM 3LAI 3MIT ofvrCHIL 3TIL 3
   KHOU 3NGOU 3THOU 3WAI 3pt3HUK 3++e(PHAM 3ATIYA 3GOK 3JHAM 3RAI &eJIL 3DIL 3GHOU 3DHOU 3BHAM 3KOK $h3LAI $h3MIT $hof
   $hp=$h3TIL $h3NGOU $h3I $h%tONAP 4INAP 4ANAP 4YENAP 4SOUNAP 4UNAP 4CHEINAP 4NUNG 2CHEIKHEI 2waIYEK 2APUN IYEK U+ABF0
   y)U+D7B0 0,a.yyO-YEO 2O-O-I 2YO-A 2YO-AE 2YO-EO 2U-YEO 2U-I-I 2YU-AE 2YU-O 2EU-A 2EU-EO 2EU-E 2EU-O 2I-YA-O 2I-YAE 2
   I-YEO 2I-YE 2I-O-I 2I-YO 2I-YU 2I-I 2ARAEA-A 2ARAEA-E U+D7CB .>iNIEUN-RIEUL 2NIEUN-CHIEUCH 2.eg2SSANGTIKEUT-PIEUP
   .^g2TIKEUT-SIOS-KIYEOK .^iTIKEUT-CHIEUCH 2TIKEUT-THIEUTH 2.ys2RIEUL-KIYEOK-HIEUH 2SSANGRIEUL-KHIEUKH 2
   RIEUL-MIEUM-HIEUH 2RIEUL-PIEUP-TIKEUT 2RIEUL-PIEUP-PHIEUPH 2RIEUL-YESIEUNG 2RIEUL-YEORINHIEUH-HIEUH 2.yz2MIEUM-NIEUN
   2MIEUM-SSANGNIEUN 2SSANGMIEUM 2MIEUM-PIEUP-SIOS 2MIEUM-CIEUC .tw2PIEUP-RIEUL-PHIEUPH 2PIEUP-MIEUM 2.ek.:g.^z.^&
   SIOS-KAPYEOUNPIEUP 2SSANGSIOS-KIYEOK 2SSANGSIOS-TIKEUT 2SIOS-PANSIOS .^,.^;.^=PANSIOS-PIEUP 2PANSIOS-KAPYEOUNPIEUP 2
   YESIEUNG-MIEUM 2YESIEUNG-HIEUH 2CIEUC-PIEUP 2CIEUC-SSANGPIEUP 2.mm2PHIEUPH-SIOS 2PHIEUPH-THIEUTH U+FB00 yaabdmFF 3r$
   3FL 3FFI 3FFL 3a;S T 3ST U+FB13 0.aaabdmz%NOW 4ECH 4INI 3VEW NOW 3z%XEH U+FB1D .>jacv+aaHIRIQ 1n:JUDEO-SPANISH
   VARIKA 1dm.y$v+v+.e;an.nf(v2.abeu3.e<^)gx3.e=uxta3td3TAV 2.nfari^pfaapfa%4SIN a%4rcaipfa%6SIN vtu<.e;4.e>4.ng.h(retc
   re.e<rd2HE aa.ng2>.rezqrdU+FB38 .hvrev+rdgsgxregxre.e=rdU+FB3E 2tardU+FB40 2h$re+vrdU+FB43 gsPE rePE rdU+FB46 2.nhre
   QOF retdrd2pfreTAV re>.aaHOLAM .h(.tsy(.ts2PE .ts1dmeu.e=u!ac.>ke$esBEEH cj.accjBEHEH cj.y&cjTEHEH cj.nicjVEH cj
   PEHEH cjDYEH cjNYEH cj.e^cj.y*cj.y+k!DAHAL k!DUL k!DDAL k!JEH k!RREH k!^acj>bcjGUEH cjNGOEH cjdl.e|e$esRNOON cjhduk
   aog^6cdcc.e!.ttcgcc.y,.ttcicl.e%e$fkaaulg^7m>sna%mea,:|fda,d)evfdu%g*b+ao6a,d.evfdb,alfpa,:|.e(;ub,a.dqgjfdb,WASLA
   aoU+FBD3 anNG cjU k!cvk!fsk!hhulf(VE k!.adcve$cdccfse$esE cj.y:KAZAKH .adg:!$.tu.ciaaeu;=dx;=h&;=U ;=cv;=fs;=E g^8m>
   8lz.y:.ad.ciqwg^9g:m>9g:cecban!&.tt.tu.cic!g^7c*g^7b)g^7g:g^7clf(jd;|j=;|v|c!;^c|d&ydc*c!ydfgc!e$c*ydfw;>ydhed&ydje
   ;>ydgjd&ydv!b.f(f:c!ydlfc!ydhf;|f<d&;^gxaaeue$c|e$c*e$fge$c&;^c&;|b);|dl;|hdc!;^cl;|=).tvgz.tvg:.tv>daa.e)e$.e.e$tv
   e$twe$r,e$|df(.ciaagzm^tfm^b)m^dlm^g:m^clesjd.ikj=.ikv|.ikhfqyf<qygxaaeufkc&qifkg:qxc&b.fkg:qxb)aaeuqiesdl.ikg:aa|d
   escl.ijfkg:fkclfkulc!!$c*!$fg!$b)!$hdlzjd.ilj=.ilv|*ac|d&xsc*c!xsfgc!xsfw.clhed&lwfgxsje.clgjd&lzv!*af:c!xslfc!xshf
   .clf<d&xsgx.cklwc&xsc&.ilb).cldl.ilhdc!xrlw|dlzcl.ckxrlwhdlwulb.cgcb7hdcijd;)j=;)v|;)fw;)kd;)gxaac&;(b)cic&b.cidl;)
   cl;)>daatv;(tw;(r,cigju=f:u=lfu=fwu=kdu=c*u=c|u=fgu=heu=jeu=kd;>e$b)e$gzf(fw.txhe.txje.txgjqyf:qylfqyfwqykdqyc*qyc|
   qyfgqyheqyjeqykdc!fkc*fkfgqifkgzesfw.tzhe.tzje.tzkd.clfwaahdlzkdaahdlzgj*afw.>ncikd.>ncigjb.civ!b.ciu<.aem>5g^0
   ORNATE &q:$u!dmRAHIMAHU .y;2RADI ALLAAHU ANH 4ANHAA 4ANHUM 4ANHUMAA 4ANHUNNA 2SALLALLAAHU .faWA-AALIH 2.fa.j!ALAYHIM
   .j!ALAYHIMAA .j!.faAS-SALAATU WAS-SALAAM 2QUDDISA SIRRAH 2SALLALLAHU .faWAAALIHEE WA-SALLAM 2ALAYHAA .j!TABAARAKA
   WA-TAAALAA 2RAHIMAHUM .y;2j=c!b.lwc*c!.tylwfgb.xrc!m)c*m)fglzc|b.d&;.c*b..cjesfwd&c!lwc|d&m)g:qid&m^m)c|m)b);.hed&d&
   m^xrb.eskdd&b.m^lwc|ukqi<a.ty;.jed&qwfkfgb.;.gjb.d&.tym)clesf:c!b.qib.m^m)g:eslfb..>leshf<ab.;.f<b.d&^|b)esc&d&.>lfk
   c|c!!$fkfgb.m^xrd&;.b)d&.t$m)clfkc|d&m)b)lwfg.t$cecbU+FD92 4c|<alzhdb..t$lzdld&b.m)g:fkc|b.m^m)g:qi.cjesclb.b.;.jd<a
   oij=c!.cjfkfg.cjqi.cjesc|b.ukfkc*qwqiqwesfw<aqweshe!+kd!+je!+c&c!ukqioicld&ukfkc|ukqioib)b.oif<b.oidl!+f<b.d&lzc&d&
   *af:b.oigxb.oidlc!d&lzb)<aoic&c!*agxb.b.esc&c!b.esdlc!d&esc|!+c*c!oib)c!oihfb.oijd!+gxb.*af:c!*aheb.*afw<aoidlc!ukm>
   U+FDCF 2SALAAMUHU ALAYNAA U+FDF0 2SALLA .>oQALA .>oALLAH f(AKBAR f(MOHAMMAD f(SALAM f(RASOUL f(.fbf(.y<f(SALLA f(.>m
   .y<2JALLAJALALOUHOU 0RIAL aku|dmBISMILLAH AR-RAHMAN AR-RAHEEM 2SUBHAANAHU WA TAAALAA 2AZZA WA JALL 0)&SELECTOR-1 ~8
   1SELECTOR-10 ~6 0.t&dy4wgdy5dt4h+4r&4;:4oxs&aq>$fhnbaq>$BRAKCET 4b<$iU+FE20 oudmumd*a=oea)umuza=1cqumd*a=1.>p1dm.t,
   a).t,cq.t,.>pa:mw.fcumuza=0.t&bb.t*4EM ey4EN eyozd:4s%x&s&finbfis&iinbiis&k|nbk|s&.s|nb.s|s&!enb!es&l:nbl:s&&%nb&%s&
   aq&%nbaq&%0.y=a%a$.y=;*.t&amobnbob0n;$j0.y>$j0s%$jf&s%$j0n;x&0.y>x&0s%x&o;fqwgfqdtU+FE54 1r&1uw|o:%EM eygcfi:$gciico
   iigck|cok|$:at,h.:h.nj1dnatc>atq$U+FE68 1us1.:l.fdh=U+FE70 u!.aeg^1.feaa.aeb:.e)g^1c.FRAGMENT 1.e.g^U+FE76 1tv.intw
   .inr,.in>d.in+$f(cgcbanj>f(u<v)aog^6fkulg^6esh&aaulg^6esu<j>a,g^6es.cig^6^|m)cieuk!jdcjj=.nle$cdcccjv|cjc|cjc*cjfgcj
   v^k!=)k!gzk!tfk!fwcjkdcjhecjjecjgjcjv!cjf:cjlfcjhfcjf<cjgxcjc&cjb)cjdlcjhdcjh&k!g:e$esclcf.tuc&aau<v)aog^8^|ul;=a,g^
   8m>5g^5m>U+FEFF 0d|.ff.nmo%U+FF01 .>q.>xa)gcaqficoaqfi0.y^wgduam&%co&%1wgfqrubda%j*WO &agoI kpt,t%hz4fs4j%4TU 1.<|b>
   ruac.;me!hkKI 3&)KE 3KO om3!a!h;bSO uo;n|mx+TO vrNI ^.:)NO .=iurMI :f3ME 3MO s+fs3j%.=jy>g=2$arwb;.s%b>,a+wj*.ed3.x<
   3.x=3.ee3.x>3.x^3.ef3.eg3.eh3.mh3.mi3.mj3.mk3.x|3.x!3.ml3.ei3.ej3.ek3.el3.em3.ti3)*3)+3.mm3.mn3.mo3.mp3.mq3.mrU+FFC2
   ;jdxs+YAE 3EO 3E U+FFCA 3YEO 3s)faWA 3WAE 3cvU+FFD2 3j%fjWEO 3x,WI 3fsU+FFDA 3z)3:+I U+FFE0 .>qCENT at.fgatcwatcq1>!
   ck1)iatWON ajU+FFE8 0.y^FORMS babg1b*g,cx.r)b+g,a*bp1aqboU+FFF9 0INTERLINEAR .x..y|2j,2TERMINATOR 0OBJECT .>r0.>r"

end Covenant.Text
